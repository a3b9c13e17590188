import ContractLowering.CommandLine.FileSystem
import ContractLowering.Proofs.Source.Member

/-! # Laws of file systems

Nothing is known of a file system but what reading and writing do to its files: reading leaves them
alone, and writing replaces the one file that its path leads to. Paths may lead anywhere, several of
them to the same file, and any file may be refused.
-/

namespace ContractLowering.CommandLine

/-- A file is text exactly when its content spells some text in UTF-8. -/
theorem textOf_eq_ok {content : ByteArray} {text : String} :
    textOf content = .ok text ↔ content = text.toUTF8 := by
  unfold textOf String.fromUTF8?
  constructor
  · intro h
    split at h
    · rename_i found hfound
      split at hfound
      · obtain rfl := Option.some.inj hfound
        obtain rfl := Except.ok.inj h
        rfl
      · exact nomatch hfound
    · exact nomatch h
  · rintro rfl
    rw [String.toUTF8_eq_toByteArray, dif_pos text.isValidUTF8]
    rfl

section Actions

variable {Files ε ε' α β : Type} {files : Files}

/-- An action has a result and leaves the files as they are. -/
def Gives (action : ExceptT ε (StateM Files) α) (files : Files) (result : Except ε α) : Prop :=
  action.run.run files = (result, files)

variable {action : ExceptT ε (StateM Files) α} {next : α → ExceptT ε (StateM Files) β}

theorem gives_ofExcept (files : Files) (result : Except ε α) :
    Gives (MonadExcept.ofExcept result) files result := by
  cases result <;> rfl

theorem Gives.bind {a : α} {result : Except ε β} (h : Gives action files (.ok a))
    (hnext : Gives (next a) files result) : Gives (action >>= next) files result := by
  rw [Gives, ExceptT.run_bind, run_bind_of_eq h]
  exact hnext

theorem Gives.bind_error {error : ε} (h : Gives action files (.error error)) :
    Gives (action >>= next) files (.error error) := by
  rw [Gives, ExceptT.run_bind, run_bind_of_eq h]
  rfl

theorem Gives.adapt {result : Except ε α} (h : Gives action files result) (f : ε → ε') :
    Gives (action.adapt f) files (result.mapError f) := by
  change (Except.mapError f <$> action.run).run files = (result.mapError f, files)
  rw [StateT.run_map, h]
  rfl

end Actions

/-- The files that a file system keeps. -/
structure FileView (Files File : Type) where
  /-- The content of a file, if it is there. -/
  content? : Files → File → Option ByteArray
  /-- The file that a path leads to, be it there or not. -/
  file? : Files → String → Option File

namespace FileView

variable {Files File : Type} (view : FileView Files File)

/-- A path leads to a file with this content. -/
def Holds (files : Files) (path : String) (content : ByteArray) : Prop :=
  ∃ file, view.file? files path = some file ∧ view.content? files file = some content

theorem Holds.unique {view : FileView Files File} {files : Files} {path : String}
    {content other : ByteArray} (h : view.Holds files path content)
    (h' : view.Holds files path other) : content = other := by
  obtain ⟨file, hfile, hcontent⟩ := h
  obtain ⟨same, hsame, hother⟩ := h'
  obtain rfl := Option.some.inj (hfile.symm.trans hsame)
  exact Option.some.inj (hcontent.symm.trans hother)

/-- The file that a path leads to has got this content, and nothing else is different. -/
structure Replaces (before after : Files) (path : String) (content : ByteArray) : Prop where
  holds : view.Holds after path content
  leads : view.file? after path = view.file? before path
  others : ∀ file, view.file? before path ≠ some file →
    view.content? after file = view.content? before file

end FileView

namespace FileSystem

variable {Files File : Type}

/-- What reading and writing promise. Nobody else is at work on the files, and they are files that
keep what is written to them. -/
structure Laws (system : FileSystem (StateM Files)) (view : FileView Files File) : Prop where
  /-- Reading leaves all files as they are, whether it succeeds or not. -/
  keeps : ∀ files path, ∃ result, Gives (system.read path) files result
  /-- Reading takes the whole content of the file that its path leads to. -/
  reads : ∀ {files path content}, Gives (system.read path) files (.ok content) →
    view.Holds files path content
  /-- Writing replaces the whole content of that file, or adds the file. What becomes of it when
  writing fails is not said. -/
  replaces : ∀ {before after path content},
    (system.write path content).run.run before = (.ok (), after) →
      view.Replaces before after path content

variable (system : FileSystem (StateM Files)) (files : Files) (path : String)

/-- The file under a path can be read, and spells a text in UTF-8. -/
def HoldsText (text : String) : Prop :=
  Gives (system.read path) files (.ok text.toUTF8)

/-- The file under a path can be written with this text. -/
def Accepts (text : String) : Prop :=
  ∃ after, (system.write path text.toUTF8).run.run files = (.ok (), after)

variable {system : FileSystem (StateM Files)} {view : FileView Files File} {files : Files}
  {path text : String}

theorem gives_readText {result : Except FileError ByteArray}
    (h : Gives (system.read path) files result) :
    Gives (system.readText path) files (result >>= textOf) := by
  cases result with
  | error error => exact h.bind_error
  | ok content => exact h.bind (gives_ofExcept files _)

theorem HoldsText.readText (h : system.HoldsText files path text) :
    Gives (system.readText path) files (.ok text) := by
  have hread := gives_readText h
  rwa [show (Except.ok text.toUTF8 >>= textOf) = .ok text from textOf_eq_ok.mpr rfl] at hread

/-- A text is read, or there is an error. -/
theorem Laws.readText (laws : system.Laws view) (files : Files) (path : String) :
    (∃ text, system.HoldsText files path text) ∨
      ∃ error, Gives (system.readText path) files (.error error) := by
  obtain ⟨result, hread⟩ := laws.keeps files path
  have htext := gives_readText hread
  cases h : result >>= textOf with
  | error error => exact .inr ⟨error, h ▸ htext⟩
  | ok text =>
    obtain ⟨content, rfl, hcontent⟩ := bind_eq_ok.mp h
    obtain rfl := textOf_eq_ok.mp hcontent
    exact .inl ⟨text, hread⟩

/-- Whoever can read a file that was written reads what was written. -/
theorem Laws.read_back (laws : system.Laws view) {before after : Files} {content other : ByteArray}
    (hwrite : (system.write path content).run.run before = (.ok (), after))
    (hread : Gives (system.read path) after (.ok other)) : other = content :=
  (laws.reads hread).unique (laws.replaces hwrite).holds

end FileSystem

end ContractLowering.CommandLine
