import LabelTally.Check.Finding
import LabelTally.Collection.Basic
import LabelTally.Report.Locate
import LabelTally.FileTree.FileSystem

/-!
# Sources

The bytes of files for reports: those kept by a scan, and otherwise what the file system holds when
they are first asked for. Bytes once read are kept.
-/

namespace LabelTally

/-- The bytes of a scanned file, and the file with them kept. -/
def ScannedFile.load (f : ScannedFile) (fs : FileTree.FileSystem) :
    Except FileTree.Fault (List UInt8 × ScannedFile) :=
  match f.content with
  | some bytes => .ok (bytes, f)
  | none => (fs.read f.path).map fun bytes => (bytes, { f with content := some bytes })

namespace Report

/-- The files of a scan and further ones. -/
structure Sources where
  /-- The scanned files. -/
  scanned : Collection := {}
  /-- Other files that were read. -/
  others : List (Path × List UInt8) := []
  deriving Repr, DecidableEq

/-- The index of the last file with a path. -/
def lastIndex? (files : List ScannedFile) (path : Path) : Option Nat :=
  (files.reverse.findIdx? fun f => f.path == path).map fun i => files.length - 1 - i

/-- The bytes of the file with a path; of several scanned ones the last counts. -/
def Sources.content (s : Sources) (fs : FileTree.FileSystem) (path : Path) :
    Except FileTree.Fault (List UInt8 × Sources) :=
  match lastIndex? s.scanned.files path with
  | some i =>
    match s.scanned.files[i]? with
    | some f =>
      (f.load fs).map fun (bytes, f) =>
        (bytes, { s with scanned := ⟨s.scanned.files.set i f⟩ })
    | none => .error ⟨.missing, path⟩
  | none =>
    match s.others.lookup path with
    | some bytes => .ok (bytes, s)
    | none =>
      (fs.read path).map fun bytes => (bytes, { s with others := (path, bytes) :: s.others })

/-- Where a location stands. -/
def Sources.locate (s : Sources) (fs : FileTree.FileSystem) (l : Check.Location) :
    Except FileTree.Fault (Located × Sources) :=
  (s.content fs l.path).map fun (bytes, s) => (Report.locate bytes l.span, s)

/-- Where several locations stand; what was read before a failure stays read. -/
def Sources.locateAll (s : Sources) (fs : FileTree.FileSystem) :
    List Check.Location → Sources × Except FileTree.Fault (List Located)
  | [] => (s, .ok [])
  | l :: rest =>
    match s.locate fs l with
    | .error e => (s, .error e)
    | .ok (found, s) =>
      let (s, more) := s.locateAll fs rest
      (s, more.map (found :: ·))

end Report

end LabelTally
