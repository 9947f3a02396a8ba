import Mathlib.Data.List.Basic
import ScriptVeil.CommandLine.Files

namespace ScriptVeil.CommandLine

section

variable {σ ι : Type}

/-- How the states of a file system are seen: the file that a path leads to, and what files hold. -/
structure View (σ ι : Type) where
  locate : σ → Text → Option ι
  content : σ → ι → Option ByteArray

/-- What the operations of a file system do to its files. Reading gives the content of the file that
the path leads to. A write that fails changes nothing, one that succeeds changes that file alone. -/
structure FileSystem.Lawful (fs : FileSystem (StateM σ)) (v : View σ ι) : Prop where
  read_keeps {path : Text} {s s' : σ} {r : Except FileError ByteArray} :
    fs.read path s = (r, s') → v.content s' = v.content s
  read_ok {path : Text} {s s' : σ} {data : ByteArray} : fs.read path s = (.ok data, s') →
    ∃ i, v.locate s path = some i ∧ v.content s i = some data
  write_error {path : Text} {data : ByteArray} {s s' : σ} {e : FileError} :
    fs.write path data s = (.error e, s') → v.content s' = v.content s
  write_ok {path : Text} {data : ByteArray} {s s' : σ} : fs.write path data s = (.ok (), s') →
    ∃ i, v.locate s' path = some i ∧ v.content s' i = some data
      ∧ ∀ j ≠ i, v.content s' j = v.content s j

end

namespace Files

variable {files files' : Files} {path name other : Text} {content : ByteArray}
  {inside slashed : Bool} {parts : List Text}

@[simp]
theorem find?_insert_self (files : Files) (name : Text) (content : ByteArray) :
    (files.insert name content).find? name = some content := by
  rw [find?, insert, List.find?_cons_of_pos (by simp)]
  rfl

theorem find?_insert_of_ne (h : other ≠ name) (files : Files) (content : ByteArray) :
    (files.insert name content).find? other = files.find? other := by
  rw [find?, find?, insert, List.find?_cons_of_neg (by simpa using h.symm), List.find?_filter]
  congr 2
  funext f
  have himp : f.1 = other → f.1 ≠ name := fun hf => hf ▸ h
  simpa using himp

theorem walk_eq_name (h : files.walk inside parts = .name name slashed) (files' : Files) :
    files'.walk inside parts = .name name slashed := by
  fun_induction files.walk inside parts with
  | case1 => contradiction
  | case2 inside part parts hhere ih =>
    rw [walk, if_pos hhere]
    exact ih h
  | case3 inside parts hhere ih =>
    rw [walk, if_neg hhere, if_pos rfl]
    exact ih h
  | case4 inside part parts hhere hup hlast =>
    rw [walk, if_neg hhere, if_neg hup, if_pos hlast]
    exact h
  | case5 | case6 | case7 => contradiction

theorem place_eq_name (h : files.place path = .name name slashed) (files' : Files) :
    files'.place path = .name name slashed := by
  rw [place] at h ⊢
  split at h
  · contradiction
  · next hsize =>
    rw [if_neg hsize]
    exact walk_eq_name h files'

theorem write_eq_ok (h : files.write path content = .ok files') :
    ∃ name, files'.place path = .name name false ∧ files'.find? name = some content
      ∧ ∀ other ≠ name, files'.find? other = files.find? other := by
  rw [write] at h
  split at h
  · contradiction
  · next name slashed hplace =>
    split at h
    · contradiction
    · next hslashed =>
      split at h
      · contradiction
      · obtain rfl := Except.ok.inj h
        obtain rfl : slashed = false := Bool.eq_false_iff.2 hslashed
        exact ⟨name, place_eq_name hplace _, find?_insert_self files name content,
          fun other hne => find?_insert_of_ne hne files content⟩

theorem read_eq_ok (h : files.read path = .ok content) :
    ∃ name, files.place path = .name name false ∧ files.find? name = some content := by
  rw [read] at h
  split at h
  · contradiction
  · next name slashed hplace =>
    split at h
    · contradiction
    · split at h
      · contradiction
      · next found hfound =>
        cases slashed with
        | true => contradiction
        | false =>
          obtain rfl := Except.ok.inj h
          exact ⟨name, hplace, hfound⟩

def nameAt? (files : Files) (path : Text) : Option Text :=
  match files.place path with
  | .name name false => some name
  | _ => none

end Files

def directoryView : View Files Text :=
  ⟨Files.nameAt?, Files.find?⟩

/-- The files of a directory behave as the files of a system do. -/
theorem directory_lawful : directory.Lawful directoryView where
  read_keeps h := by
    obtain ⟨-, rfl⟩ := Prod.mk.inj h
    rfl
  read_ok h := by
    obtain ⟨hread, -⟩ := Prod.mk.inj h
    obtain ⟨name, hplace, hfound⟩ := Files.read_eq_ok hread
    exact ⟨name, by simp only [directoryView, Files.nameAt?, hplace], hfound⟩
  write_error {path data s s' e} h := by
    cases hwrite : s.write path data with
    | ok files =>
      simp only [directory, hwrite] at h
      cases h
    | error e =>
      simp only [directory, hwrite] at h
      cases h
      rfl
  write_ok {path data s s'} h := by
    cases hwrite : s.write path data with
    | ok files =>
      simp only [directory, hwrite] at h
      cases h
      obtain ⟨name, hplace, hcontent, hother⟩ := Files.write_eq_ok hwrite
      exact ⟨name, by simp only [directoryView, Files.nameAt?, hplace], hcontent, hother⟩
    | error e =>
      simp only [directory, hwrite] at h
      cases h

end ScriptVeil.CommandLine
