import RemovableMedia.Session.Basic

/-!
# Places that a session looks at

Of all files only a few matter to a session: the file of settings, and the
volumes of its events with their media folders.  Whoever makes the file tree
for a session can do with these.
-/

namespace RemovableMedia.Session

/-- The path of the file of settings, if the arguments name one. -/
def configPath? (arguments : List String) : Option String :=
  match Arguments.parse {} arguments with
  | .ok (.start arguments) => arguments.config
  | _ => none

/-- The volume that a line of input may lead to an import from. -/
def volumeOfLine? (line : String) : Option String :=
  match Json.decodeText HostEvent.decode (Input.trimmed line) with
  | .ok (.mountCompleted event) =>
      if Router.startsImport event then event.volume.volumeId else none
  | _ => none

/-- A volume and the media folders that it may have. -/
def volumePaths (config : HandlerConfig) (volumeId : String) : List String :=
  let root := DirectoryHandle.root volumeId
  volumeId :: config.mediaFolders.map fun name =>
    FileSystem.localPath (root.child name)

/-- The paths about which a session with this input may ask. -/
def probedPaths (config : HandlerConfig) (input : List UInt8) :
    List String :=
  let (lines, _) := Input.readable (Input.split input)
  (lines.filterMap volumeOfLine?).flatMap (volumePaths config)

end RemovableMedia.Session
