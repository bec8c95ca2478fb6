import LabelTally.Report.Sources
import LabelTally.Proofs.Report.Locate

/-!
# Sources that are kept

What a report shows of a file are the bytes that are kept of it, if any are: the file system is not
asked again, so a file that changed after the scan is shown as it was scanned, and looking at it
leaves the sources as they are.
-/

namespace LabelTally.Report

/-- The bytes that are kept of the file with a path; of several scanned ones the last counts. -/
def Sources.kept? (s : Sources) (path : Path) : Option (List UInt8) :=
  match s.scanned.files.reverse.find? (·.path == path) with
  | some f => f.content
  | none => s.others.lookup path

/-- The last file with a path stands at the index of the last one. -/
theorem exists_lastIndex? {files : List ScannedFile} {path : Path} {f : ScannedFile}
    (h : files.reverse.find? (·.path == path) = some f) :
    ∃ i, lastIndex? files path = some i ∧ files[i]? = some f := by
  have hsome : (files.reverse.findIdx? (·.path == path)).isSome := by
    rw [List.findIdx?_isSome, List.any_eq_true]
    have hpath := List.find?_some h
    exact ⟨f, List.mem_of_find?_eq_some h, hpath⟩
  obtain ⟨k, hk⟩ := Option.isSome_iff_exists.mp hsome
  refine ⟨files.length - 1 - k, by rw [lastIndex?, hk]; rfl, ?_⟩
  have hbound : k < files.reverse.length := (List.findIdx?_eq_some_iff_getElem.mp hk).1
  rw [List.length_reverse] at hbound
  rw [List.find?_eq_bind_findIdx?_getElem?, hk, Option.bind_some, List.getElem?_reverse hbound] at h
  exact h

/-- Bytes that are kept are found, and nothing changes. -/
theorem Sources.content_of_kept {s : Sources} {path : Path} {data : List UInt8}
    (h : s.kept? path = some data) (fs : FileTree.FileSystem) :
    s.content fs path = .ok (data, s) := by
  rw [kept?] at h
  rw [content]
  cases hfind : s.scanned.files.reverse.find? (·.path == path) with
  | some f =>
    obtain ⟨i, hi, hf⟩ := exists_lastIndex? hfind
    have hcontent : f.content = some data := by rwa [hfind] at h
    have hload : f.load fs = .ok (data, f) := by rw [ScannedFile.load, hcontent]
    have hset : s.scanned.files.set i f = s.scanned.files := by
      obtain ⟨hbound, hget⟩ := List.getElem?_eq_some_iff.mp hf
      rw [← hget, List.set_getElem_self]
    simp only [hi, hf, hload, Except.map, hset]
  | none =>
    have hnone : lastIndex? s.scanned.files path = none := by
      rw [lastIndex?, Option.map_eq_none_iff, List.findIdx?_eq_none_iff]
      simpa using List.find?_eq_none.mp hfind
    rw [hfind] at h
    simp only [hnone, h]

/-- A location in a file whose bytes are kept is looked up in them, and nothing changes. -/
theorem Sources.locate_of_kept {s : Sources} {l : Check.Location} {data : List UInt8}
    (h : s.kept? l.path = some data) (fs : FileTree.FileSystem) :
    s.locate fs l = .ok (Report.locate data l.span, s) := by
  rw [Sources.locate, content_of_kept h]
  rfl

/-- If no two scanned files have the same path, the bytes of each are those that it holds. -/
theorem Sources.kept?_of_mem {s : Sources} (hdistinct : (s.scanned.files.map (·.path)).Nodup)
    {f : ScannedFile} (hf : f ∈ s.scanned.files) : s.kept? f.path = f.content := by
  have hsome : (s.scanned.files.reverse.find? (·.path == f.path)).isSome := by
    rw [List.find?_isSome]
    exact ⟨f, List.mem_reverse.mpr hf, BEq.rfl⟩
  obtain ⟨g, hg⟩ := Option.isSome_iff_exists.mp hsome
  have hpath : g.path = f.path := by simpa using List.find?_some hg
  have hmem : g ∈ s.scanned.files := List.mem_reverse.mp (List.mem_of_find?_eq_some hg)
  rw [kept?, hg, List.inj_on_of_nodup_map hdistinct hmem hf hpath]

end LabelTally.Report
