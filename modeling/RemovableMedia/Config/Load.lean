import RemovableMedia.Config.Decode
import RemovableMedia.Storage.Tree

/-!
# Settings from a file
-/

namespace RemovableMedia

/-- Why settings could not be loaded. -/
inductive ConfigError where
  | unreadable (fault : PathFault)
  | notUtf8
  /-- The text is no TOML document, or not one of settings. -/
  | unacceptable
  deriving DecidableEq, Repr

namespace ConfigError

/-- The words that go before those of the reader, or all there are. -/
def message : ConfigError → String
  | unreadable fault => "IO error: " ++ fault.text
  | notUtf8 => "IO error: stream did not contain valid UTF-8"
  | unacceptable => "Configuration error"

end ConfigError

namespace HandlerConfig

/-- Settings from the content of a file. -/
def ofBytes (content : ByteArray) : Except ConfigError HandlerConfig := do
  let text ← (String.fromUTF8? content).elim (throw .notUtf8) pure
  (ofToml? text).elim (throw .unacceptable) pure

/-- Settings from the file at a path. -/
def load (tree : FileTree) (path : String) :
    Except ConfigError HandlerConfig := do
  let content ← (tree.read path).mapError .unreadable
  ofBytes content

end HandlerConfig

end RemovableMedia
