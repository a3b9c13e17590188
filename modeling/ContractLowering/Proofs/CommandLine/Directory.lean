import ContractLowering.CommandLine.Directory
import ContractLowering.Proofs.CommandLine.FileSystem

/-! # Reading and writing in a directory

A path stands for a file of the directory, whether the file is there or not, or it cannot be
written. Writing under a path changes the content of this file alone, so that a directory keeps the
laws of file systems.
-/

namespace ContractLowering.CommandLine

namespace Directory

variable {directory : Directory} {path name : String}

/-- Where a path leads to, its files do not matter. -/
theorem walk_eq_ok (other : Directory) {isInside : Bool} {parts : List String} {place : Place}
    (h : directory.walk isInside parts = .ok place) : other.walk isInside parts = .ok place := by
  induction parts generalizing isInside with
  | nil => exact h
  | cons part parts ih =>
    rw [walk] at h ⊢
    split_ifs at h ⊢ with hhere haround hlast
    · exact ih h
    · exact ih h
    · exact h
    · cases hname : fileName isInside part with
      | error error => rw [hname] at h; exact nomatch h
      | ok name => rw [hname] at h; exact nomatch h

theorem locate_eq_ok (other : Directory) {place : Place}
    (h : directory.locate path = .ok place) : other.locate path = .ok place := by
  unfold locate at h ⊢
  split_ifs at h ⊢
  exact walk_eq_ok other h

/-- The file that is written under a path. -/
def target (directory : Directory) (path : String) : Except FileError String := do
  match ← directory.locate path with
  | .directory => .error .isDirectory
  | .entry isInside name =>
    if asksDirectory path then .error .isDirectory else fileName isInside name

theorem target_eq_ok : directory.target path = .ok name ↔
    ∃ isInside entry, directory.locate path = .ok (.entry isInside entry) ∧
      asksDirectory path = false ∧ fileName isInside entry = .ok name := by
  rw [target, bind_eq_ok]
  constructor
  · rintro ⟨place, hplace, h⟩
    cases place with
    | directory => exact nomatch h
    | entry isInside entry =>
      simp only at h
      split_ifs at h with hasks
      exact ⟨isInside, entry, hplace, by simpa using hasks, h⟩
  · rintro ⟨isInside, entry, hplace, hasks, hname⟩
    refine ⟨_, hplace, ?_⟩
    simp only [hasks, Bool.false_eq_true, if_false]
    exact hname

/-- A path stands for the same file in each directory. -/
theorem target_of_eq_ok (other : Directory) (h : directory.target path = .ok name) :
    other.target path = .ok name := by
  obtain ⟨isInside, entry, hplace, hasks, hname⟩ := target_eq_ok.mp h
  exact target_eq_ok.mpr ⟨isInside, entry, locate_eq_ok other hplace, hasks, hname⟩

theorem target_toOption (other : Directory) (path : String) :
    (other.target path).toOption = (directory.target path).toOption := by
  cases h : directory.target path with
  | ok name => rw [target_of_eq_ok other h]
  | error error =>
    cases h' : other.target path with
    | ok name => exact nomatch h.symm.trans (target_of_eq_ok directory h')
    | error error => rfl

theorem write_eq_map (directory : Directory) (path : String) (content : ByteArray) :
    directory.write path content =
      (directory.target path).map fun name => directory.set name content := by
  rw [write, target]
  cases directory.locate path with
  | error error => rfl
  | ok place =>
    cases place with
    | directory => rfl
    | entry isInside entry =>
      simp only [bind, Except.bind]
      split_ifs
      · rfl
      · cases fileName isInside entry <;> rfl

theorem read_eq_ok {content : ByteArray} (h : directory.read path = .ok content) :
    ∃ name, directory.target path = .ok name ∧ directory.get? name = some content := by
  obtain ⟨place, hplace, h⟩ := bind_eq_ok.mp h
  cases place with
  | directory => exact nomatch h
  | entry isInside entry =>
    obtain ⟨name, hname, h⟩ := bind_eq_ok.mp h
    cases hfile : directory.get? name with
    | none => rw [hfile] at h; exact nomatch h
    | some found =>
      simp only [hfile] at h
      split_ifs at h with hasks
      obtain rfl := Except.ok.inj h
      exact ⟨name, target_eq_ok.mpr ⟨isInside, entry, hplace, by simpa using hasks, hname⟩, hfile⟩

/-- The files of a directory are known by their names. -/
def view : FileView Directory String where
  content? := get?
  file? directory path := (directory.target path).toOption

theorem view_file? {name : String} :
    view.file? directory path = some name ↔ directory.target path = .ok name := by
  simp only [view]
  cases directory.target path <;> simp [Except.toOption]

theorem outcome_eq_ok {before after : Directory} {result : Except FileError Directory}
    (h : before.outcome result = (.ok (), after)) : result = .ok after := by
  cases result with
  | ok written =>
    have hwritten : written = after := congrArg Prod.snd h
    rw [hwritten]
  | error error => exact nomatch congrArg Prod.fst h

theorem set_replaces (before : Directory) {name : String} (content : ByteArray)
    (h : before.target path = .ok name) :
    view.Replaces before (before.set name content) path content where
  holds := by
    refine ⟨name, view_file?.mpr (target_of_eq_ok _ h), ?_⟩
    exact (get?_set before name name content).trans (if_pos rfl)
  leads := target_toOption _ path
  others other hother := by
    have hne : other ≠ name := fun hname => hother (hname ▸ view_file?.mpr h)
    exact (get?_set before name other content).trans (if_neg hne)

/-- A directory keeps the laws of file systems. -/
theorem laws : system.Laws view where
  keeps directory path := ⟨directory.read path, rfl⟩
  reads {directory path content} h := by
    obtain ⟨name, htarget, hfile⟩ := read_eq_ok (congrArg Prod.fst h)
    exact ⟨name, view_file?.mpr htarget, hfile⟩
  replaces {before after path content} h := by
    have hwrite : before.write path content = .ok after := outcome_eq_ok h
    rw [write_eq_map] at hwrite
    cases htarget : before.target path with
    | error error =>
      rw [htarget] at hwrite
      exact nomatch hwrite
    | ok name =>
      rw [htarget] at hwrite
      obtain rfl := Except.ok.inj hwrite
      exact set_replaces before content htarget

end Directory

end ContractLowering.CommandLine
