import ContractLowering.Proofs.Schema.Document
import ContractLowering.Proofs.Yaml.Node
import Mathlib.Logic.Relation

/-! # Presentation of schemas

The same schema can be written in many ways. The entries of a record may stand in any order, and
entries under unknown keys between them; what is left out may be written as its default, and an
empty list or table as nothing. None of this is seen by the reader, who sees only the order of lists
and of events.
-/

namespace ContractLowering.Schema

open Yaml (Tree Scalar)

/-- A known key of a record: which values say no more than the absence of the key, and which changes
of a value are changes of presentation. -/
structure Field where
  key : String
  isDefault : Tree → Prop
  alike : Tree → Tree → Prop

/-- Changes of the entries of a record, one at a time. -/
inductive Restyles (fields : List Field) : List (Tree × Tree) → List (Tree × Tree) → Prop
  | order {entries others : List (Tree × Tree)} (perm : entries.Perm others) :
      Restyles fields entries others
  | unknown (before after : List (Tree × Tree)) {key : Scalar} (value : Tree)
      (isUnknown : ∀ field ∈ fields, field.key ≠ key.text) :
      Restyles fields (before ++ after) (before ++ (.scalar key, value) :: after)
  | default (before after : List (Tree × Tree)) {key : Scalar} {value : Tree} {field : Field}
      (known : field ∈ fields) (name : field.key = key.text) (isDefault : field.isDefault value)
      (absent : ∀ other tree, (.scalar other, tree) ∈ before ++ after → other.text ≠ key.text) :
      Restyles fields (before ++ after) (before ++ (.scalar key, value) :: after)
  | value (before after : List (Tree × Tree)) {key : Scalar} {value other : Tree} {field : Field}
      (known : field ∈ fields) (name : field.key = key.text) (alike : field.alike value other) :
      Restyles fields (before ++ (.scalar key, value) :: after)
        (before ++ (.scalar key, other) :: after)

/-- Records that differ by any number of changes, made or taken back. -/
inductive RecordAlike (fields : List Field) : Tree → Tree → Prop
  | same (tree : Tree) : RecordAlike fields tree tree
  | entries {entries others : List (Tree × Tree)}
      (restyled : Relation.EqvGen (Restyles fields) entries others) :
      RecordAlike fields (.mapping entries) (.mapping others)

/-- Lists whose items differ in presentation; an empty one can be written as nothing. -/
inductive ListAlike (item : Tree → Tree → Prop) : Tree → Tree → Prop
  | same (tree : Tree) : ListAlike item tree tree
  | items {items others : List Tree} (alike : List.Forall₂ item items others) :
      ListAlike item (.sequence items) (.sequence others)
  | nothing (tag : Option String) : ListAlike item (.sequence []) (.scalar ⟨"", .plain, tag⟩)

/-- Tables whose values differ in presentation, under the same keys in the same order; an empty one
can be written as nothing. -/
inductive TableAlike (value : Tree → Tree → Prop) : Tree → Tree → Prop
  | same (tree : Tree) : TableAlike value tree tree
  | entries {entries others : List (Tree × Tree)}
      (alike : List.Forall₂ (fun entry other => entry.1 = other.1 ∧ value entry.2 other.2)
        entries others) :
      TableAlike value (.mapping entries) (.mapping others)
  | nothing (tag : Option String) : TableAlike value (.mapping []) (.scalar ⟨"", .plain, tag⟩)

inductive IsFalse : Tree → Prop
  | plain {text : String} (tag : Option String) (word : text ∈ ["false", "False", "FALSE"]) :
      IsFalse (.scalar ⟨text, .plain, tag⟩)

inductive IsNull : Tree → Prop
  | plain {text : String} (word : text ∈ ["", "~", "null", "Null", "NULL"]) :
      IsNull (.scalar ⟨text, .plain, none⟩)
  | tagged {text : String} (word : text ∈ ["~", "null", "Null", "NULL"]) :
      IsNull (.scalar ⟨text, .plain, some "tag:yaml.org,2002:null"⟩)

namespace Field

/-- A text that has to be there. -/
def required (key : String) : Field :=
  ⟨key, fun _ => False, Eq⟩

def flag (key : String) : Field :=
  ⟨key, IsFalse, Eq⟩

def nullable (key : String) : Field :=
  ⟨key, IsNull, Eq⟩

def list (key : String) (item : Tree → Tree → Prop) : Field :=
  ⟨key, (· = .sequence []), ListAlike item⟩

def table (key : String) (value : Tree → Tree → Prop) : Field :=
  ⟨key, (· = .mapping []), TableAlike value⟩

end Field

def typedNameFields : List Field := [.required "name", .required "type"]

def stateEntryFields : List Field := [.required "name", .required "type", .flag "payable"]

def localEntryFields : List Field := [.required "name", .required "type", .flag "inMemory"]

def definitionFields : List Field :=
  [.required "name", .list "visibility" Eq, .nullable "type",
    .list "parameters" (RecordAlike typedNameFields), .list "locals" (RecordAlike localEntryFields)]

def schemaFields : List Field :=
  [.list "state" (RecordAlike stateEntryFields), .list "defs" (RecordAlike definitionFields),
    .table "events" (ListAlike (RecordAlike typedNameFields))]

/-- Documents of schemas that differ in their presentation only. -/
def Restyled : Tree → Tree → Prop :=
  RecordAlike schemaFields

section Entries

/-- The value of a key that may stand once. -/
def once : List Tree → Option (Option Tree)
  | [] => some none
  | [value] => some (some value)
  | _ => none

/-- The values under a key. -/
def valuesAt (key : String) (entries : List (Tree × Tree)) : List Tree :=
  (entries.filter fun entry => entry.1.text? = some key).map Prod.snd

theorem valuesAt_append (key : String) (entries others : List (Tree × Tree)) :
    valuesAt key (entries ++ others) = valuesAt key entries ++ valuesAt key others := by
  simp [valuesAt]

theorem valuesAt_cons (key : String) (text : Scalar) (value : Tree) (entries : List (Tree × Tree)) :
    valuesAt key ((.scalar text, value) :: entries) =
      if text.text = key then value :: valuesAt key entries else valuesAt key entries := by
  by_cases h : text.text = key <;> simp [valuesAt, Tree.text?, h]

theorem valuesAt_eq_nil {key : String} {entries : List (Tree × Tree)}
    (h : ∀ text value, (.scalar text, value) ∈ entries → text.text ≠ key) :
    valuesAt key entries = [] := by
  rw [valuesAt, List.map_eq_nil_iff, List.filter_eq_nil_iff]
  rintro ⟨name, value⟩ hentry hname
  rw [decide_eq_true_eq] at hname
  cases name with
  | scalar text => exact h text value hentry (Option.some.inj hname)
  | _ => exact nomatch hname

theorem once_perm {values others : List Tree} (h : values.Perm others) :
    once others = once values := by
  match values, others, h with
  | [], others, h => rw [h.symm.eq_nil]
  | [value], others, h => rw [h.symm.eq_singleton]
  | _ :: _ :: _, [], h => exact nomatch h.length_eq
  | _ :: _ :: _, [_], h => exact nomatch h.length_eq
  | _ :: _ :: _, _ :: _ :: _, _ => rfl

/-- One value in place of another makes no difference to a reader that takes them alike. -/
theorem once_bind_congr {α : Type} {read : Option Tree → Option α} {value other : Tree}
    (h : read (some other) = read (some value)) (before after : List Tree) :
    (once (before ++ other :: after)).bind read = (once (before ++ value :: after)).bind read := by
  -- With another value beside it the key is refused, whatever the value.
  match before, after with
  | [], [] => exact h
  | [], _ :: _ => rfl
  | [_], _ => rfl
  | _ :: _ :: _, _ => rfl

theorem Record.get?_eq_once (record : Record) (key : String) :
    record.get? key = once ((record.filter fun entry => entry.1 = key).map Prod.snd) := by
  rw [get?]
  generalize record.filter (fun entry => entry.1 = key) = found
  match found with
  | [] => rfl
  | [_] => rfl
  | _ :: _ :: _ => rfl

theorem Record.optional_eq_bind {α : Type} (record : Record) (key : String)
    (read : Tree → Option α) (default : α) : record.optional key read default =
      (record.get? key).bind fun value => value.elim (some default) read := by
  rw [optional]
  rcases record.get? key with _ | _ | value <;> rfl

theorem entries?_cons (key value : Tree) (entries : List (Tree × Tree)) :
    (Tree.mapping ((key, value) :: entries)).entries? = key.text?.bind fun name =>
      (Tree.mapping entries).entries?.map ((name, value) :: ·) := by
  simp only [Tree.entries?, List.mapM_cons]
  cases key.text? with
  | none => rfl
  | some name => cases List.mapM (m := Option) _ entries <;> rfl

/-- A mapping is a record when all of its keys are texts. -/
theorem isSome_entries? (entries : List (Tree × Tree)) :
    (Tree.mapping entries).entries?.isSome = entries.all fun entry => entry.1.text?.isSome := by
  induction entries with
  | nil => rfl
  | cons entry entries ih =>
    obtain ⟨key, value⟩ := entry
    rw [entries?_cons, List.all_cons, ← ih]
    cases key.text? <;> simp

theorem get?_of_entries? {entries : List (Tree × Tree)} {record : Record}
    (h : (Tree.mapping entries).entries? = some record) (key : String) :
    record.get? key = once (valuesAt key entries) := by
  rw [Record.get?_eq_once, valuesAt]
  congr 1
  induction entries generalizing record with
  | nil =>
    cases h
    rfl
  | cons entry entries ih =>
    obtain ⟨name, value⟩ := entry
    rw [entries?_cons, Option.bind_eq_some_iff] at h
    obtain ⟨text, htext, hrecord⟩ := h
    obtain ⟨members, hmembers, rfl⟩ := Option.map_eq_some_iff.mp hrecord
    by_cases hkey : text = key
    · simp [htext, hkey, ih hmembers]
    · simp [htext, hkey, ih hmembers]

end Entries

/-- A reader of the value under a key, if there is one, to which presentation makes no
difference. -/
structure Field.Respects {α : Type} (field : Field) (read : Option Tree → Option α) : Prop where
  default : ∀ value, field.isDefault value → read (some value) = read none
  alike : ∀ value other, field.alike value other → read (some other) = read (some value)

/-- Records of which such readers read the same. -/
def SayAlike (fields : List Field) (record other : Record) : Prop :=
  ∀ field ∈ fields, ∀ {α : Type} (read : Option Tree → Option α), field.Respects read →
    (other.get? field.key).bind read = (record.get? field.key).bind read

section Records

variable {fields : List Field} {entries others : List (Tree × Tree)}

theorem Restyles.isSome_eq (h : Restyles fields entries others) :
    (Tree.mapping others).entries?.isSome = (Tree.mapping entries).entries?.isSome := by
  rw [isSome_entries?, isSome_entries?]
  cases h with
  | order hperm => exact hperm.symm.all_eq
  | unknown => simp [Tree.text?]
  | default => simp [Tree.text?]
  | value => simp [Tree.text?]

theorem Restyles.bind_once_eq (hdistinct : (fields.map Field.key).Nodup)
    (h : Restyles fields entries others) {field : Field} (hfield : field ∈ fields) {α : Type}
    {read : Option Tree → Option α} (hread : field.Respects read) :
    (once (valuesAt field.key others)).bind read =
      (once (valuesAt field.key entries)).bind read := by
  cases h with
  | order hperm =>
    have hvalues : (valuesAt field.key entries).Perm (valuesAt field.key others) :=
      (hperm.filter _).map _
    rw [once_perm hvalues]
  | unknown before after value hunknown =>
    rw [valuesAt_append, valuesAt_cons, if_neg (hunknown field hfield).symm, valuesAt_append]
  | @default before after key value known hknown hname hdefault habsent =>
    rw [valuesAt_append, valuesAt_cons]
    by_cases hkey : key.text = field.key
    · obtain rfl := List.inj_on_of_nodup_map hdistinct hknown hfield (hname.trans hkey)
      -- The key stands nowhere else, so the default is read in place of nothing.
      have hnone := valuesAt_eq_nil fun other tree hentry => hkey ▸ habsent other tree hentry
      rw [valuesAt_append, List.append_eq_nil_iff] at hnone
      rw [if_pos hkey, valuesAt_append, hnone.1, hnone.2]
      exact hread.default value hdefault
    · rw [if_neg hkey, valuesAt_append]
  | @value before after key value other known hknown hname halike =>
    rw [valuesAt_append, valuesAt_cons, valuesAt_append, valuesAt_cons]
    by_cases hkey : key.text = field.key
    · obtain rfl := List.inj_on_of_nodup_map hdistinct hknown hfield (hname.trans hkey)
      rw [if_pos hkey, if_pos hkey]
      exact once_bind_congr (hread.alike value other halike) _ _
    · rw [if_neg hkey, if_neg hkey]

/-- What is built from the known keys alone is the same after a change. -/
theorem Restyles.bind_entries?_eq (hdistinct : (fields.map Field.key).Nodup)
    (h : Restyles fields entries others) {α : Type} {build : Record → Option α}
    (hbuild : ∀ record other, SayAlike fields record other → build other = build record) :
    (Tree.mapping others).entries?.bind build = (Tree.mapping entries).entries?.bind build := by
  have hsome := h.isSome_eq
  cases hrecord : (Tree.mapping entries).entries? with
  | none =>
    rw [hrecord, Option.isSome_none, Option.isSome_eq_false_iff, Option.isNone_iff_eq_none] at hsome
    rw [hsome]
  | some record =>
    rw [hrecord, Option.isSome_some, Option.isSome_iff_exists] at hsome
    obtain ⟨other, hother⟩ := hsome
    rw [hother]
    apply hbuild
    intro field hfield _ read hread
    rw [get?_of_entries? hother, get?_of_entries? hrecord]
    exact h.bind_once_eq hdistinct hfield hread

theorem RecordAlike.bind_entries?_eq (hdistinct : (fields.map Field.key).Nodup) {tree other : Tree}
    (h : RecordAlike fields tree other) {α : Type} {build : Record → Option α}
    (hbuild : ∀ record other, SayAlike fields record other → build other = build record) :
    other.entries?.bind build = tree.entries?.bind build := by
  cases h with
  | same => rfl
  | entries hrestyled =>
    -- Each change keeps what is read, so any number of them does, in either direction.
    induction hrestyled with
    | rel _ _ hstep => exact hstep.bind_entries?_eq hdistinct hbuild
    | refl _ => rfl
    | symm _ _ _ ih => exact ih.symm
    | trans _ _ _ _ _ ih ih' => exact ih'.trans ih

end Records

section Readers

variable {fields : List Field} {record other : Record} {α : Type}

theorem SayAlike.required_eq (h : SayAlike fields record other) (key : String)
    (hfield : .required key ∈ fields) (read : Tree → Option α) :
    other.required key read = record.required key read := by
  apply h _ hfield fun value => value.bind read
  constructor
  · rintro value ⟨⟩
  · rintro value _ rfl
    rfl

theorem SayAlike.optional_eq (h : SayAlike fields record other) {field : Field}
    (hfield : field ∈ fields) {read : Tree → Option α} {default : α}
    (hdefault : ∀ value, field.isDefault value → read value = some default)
    (halike : ∀ value other, field.alike value other → read other = read value) :
    other.optional field.key read default = record.optional field.key read default := by
  rw [Record.optional_eq_bind, Record.optional_eq_bind]
  exact h field hfield _ ⟨hdefault, halike⟩

theorem SayAlike.flag_eq (h : SayAlike fields record other) (key : String)
    (hfield : .flag key ∈ fields) :
    other.optional key Tree.bool? false = record.optional key Tree.bool? false := by
  apply h.optional_eq hfield
  · rintro _ ⟨tag, hword⟩
    simp only [List.mem_cons, List.not_mem_nil, or_false] at hword
    rcases hword with rfl | rfl | rfl <;> rfl
  · rintro value _ rfl
    rfl

theorem SayAlike.nullable_eq (h : SayAlike fields record other) (key : String)
    (hfield : .nullable key ∈ fields) :
    other.optional key Tree.optionalText? none = record.optional key Tree.optionalText? none := by
  apply h.optional_eq hfield
  · rintro _ (hword | hword)
    all_goals simp only [List.mem_cons, List.not_mem_nil, or_false] at hword
    · rcases hword with rfl | rfl | rfl | rfl | rfl <;> rfl
    · rcases hword with rfl | rfl | rfl | rfl <;> rfl
  · rintro value _ rfl
    rfl

theorem mapM_congr {β : Type} {item : β → β → Prop} {read : β → Option α}
    (hitem : ∀ b other, item b other → read other = read b) {items others : List β}
    (h : List.Forall₂ item items others) : others.mapM read = items.mapM read := by
  induction h with
  | nil => rfl
  | cons hhead _ ih => rw [List.mapM_cons, List.mapM_cons, hitem _ _ hhead, ih]

theorem ListAlike.listOf_eq {item : Tree → Tree → Prop} {read : Tree → Option α}
    (hitem : ∀ value other, item value other → read other = read value) {tree other : Tree}
    (h : ListAlike item tree other) : Tree.listOf read other = Tree.listOf read tree := by
  cases h with
  | same => rfl
  | items hitems => exact mapM_congr hitem hitems
  | nothing tag => rfl

theorem SayAlike.list_eq (h : SayAlike fields record other) (key : String)
    {item : Tree → Tree → Prop} (hfield : .list key item ∈ fields) {read : Tree → Option α}
    (hitem : ∀ value other, item value other → read other = read value) :
    other.optional key (Tree.listOf read) [] = record.optional key (Tree.listOf read) [] := by
  apply h.optional_eq hfield
  · rintro _ rfl
    rfl
  · intro value other halike
    exact halike.listOf_eq hitem

end Readers

section Schemas

variable {tree other : Tree}

theorem TypedName.read_alike (tree other : Tree) (h : RecordAlike typedNameFields tree other) :
    TypedName.read other = TypedName.read tree := by
  apply h.bind_entries?_eq (by decide)
  intro record other hsay
  simp only [hsay.required_eq "name" (by simp [typedNameFields]),
    hsay.required_eq "type" (by simp [typedNameFields])]

theorem StateEntry.read_alike (tree other : Tree) (h : RecordAlike stateEntryFields tree other) :
    StateEntry.read other = StateEntry.read tree := by
  apply h.bind_entries?_eq (by decide)
  intro record other hsay
  simp only [hsay.required_eq "name" (by simp [stateEntryFields]),
    hsay.required_eq "type" (by simp [stateEntryFields]),
    hsay.flag_eq "payable" (by simp [stateEntryFields])]

theorem LocalEntry.read_alike (tree other : Tree) (h : RecordAlike localEntryFields tree other) :
    LocalEntry.read other = LocalEntry.read tree := by
  apply h.bind_entries?_eq (by decide)
  intro record other hsay
  simp only [hsay.required_eq "name" (by simp [localEntryFields]),
    hsay.required_eq "type" (by simp [localEntryFields]),
    hsay.flag_eq "inMemory" (by simp [localEntryFields])]

theorem Definition.read_alike (tree other : Tree) (h : RecordAlike definitionFields tree other) :
    Definition.read other = Definition.read tree := by
  apply h.bind_entries?_eq (by decide)
  intro record other hsay
  have hword (value other : Tree) (h : value = other) : other.text? = value.text? := by rw [h]
  simp only [hsay.required_eq "name" (by simp [definitionFields]),
    hsay.list_eq "visibility" (by simp [definitionFields]) hword,
    hsay.nullable_eq "type" (by simp [definitionFields]),
    hsay.list_eq "parameters" (by simp [definitionFields]) TypedName.read_alike,
    hsay.list_eq "locals" (by simp [definitionFields]) LocalEntry.read_alike]

/-- Entries that differ in their values have the same keys. -/
theorem entries?_rel {value : Tree → Tree → Prop} {entries others : List (Tree × Tree)}
    (h : List.Forall₂ (fun entry other => entry.1 = other.1 ∧ value entry.2 other.2)
      entries others) :
    Option.Rel (List.Forall₂ fun member other => member.1 = other.1 ∧ value member.2 other.2)
      (Tree.mapping entries).entries? (Tree.mapping others).entries? := by
  induction h with
  | nil => exact .some .nil
  | @cons entry other entries others hentry _ ih =>
    obtain ⟨key, first⟩ := entry
    obtain ⟨_, second⟩ := other
    obtain ⟨rfl, hvalue⟩ := hentry
    rw [entries?_cons, entries?_cons]
    generalize (Tree.mapping entries).entries? = record at ih ⊢
    generalize (Tree.mapping others).entries? = changed at ih ⊢
    cases key.text? with
    | none => exact .none
    | some name =>
      cases ih with
      | none => exact .none
      | some hrecord => exact .some (.cons ⟨rfl, hvalue⟩ hrecord)

/-- The entries of a table keep their order, and its events with them. -/
theorem TableAlike.readEvents_eq
    (h : TableAlike (ListAlike (RecordAlike typedNameFields)) tree other) :
    readEvents other = readEvents tree := by
  cases h with
  | same => rfl
  | nothing tag => rfl
  | @entries entries others halike =>
    -- Either both tables have texts for keys or neither has, and then the events match one by one.
    have hrecords := entries?_rel halike
    rw [readEvents_eq, readEvents_eq]
    generalize (Tree.mapping entries).entries? = record at hrecords ⊢
    generalize (Tree.mapping others).entries? = changed at hrecords ⊢
    cases hrecords with
    | none => rfl
    | some hrecord =>
      have hread (member other : String × Tree)
          (h : member.1 = other.1 ∧ ListAlike (RecordAlike typedNameFields) member.2 other.2) :
          readEvent other = readEvent member := by
        rw [readEvent, readEvent, h.1, h.2.listOf_eq TypedName.read_alike]
      rw [Option.bind_some, Option.bind_some, mapM_congr hread hrecord]

theorem ofTree?_restyled (h : Restyled tree other) : ofTree? other = ofTree? tree := by
  apply h.bind_entries?_eq (by decide)
  intro record other hsay
  have hevents : other.optional "events" readEvents [] =
      record.optional "events" readEvents [] := by
    have hfield : .table "events" (ListAlike (RecordAlike typedNameFields)) ∈ schemaFields := by
      simp [schemaFields]
    apply hsay.optional_eq hfield
    · rintro _ rfl
      rfl
    · intro value other halike
      exact halike.readEvents_eq
  simp only [hsay.list_eq "state" (by simp [schemaFields]) StateEntry.read_alike,
    hsay.list_eq "defs" (by simp [schemaFields]) Definition.read_alike, hevents]

end Schemas

/-- Texts of documents that differ in their presentation are refused alike, and otherwise hold the
same schema. The order of events is no matter of presentation: a schema keeps that of its
document. -/
theorem parse?_restyled {source other : String} {tree changed : Tree} (h : Holds source tree)
    (h' : Holds other changed) (hrestyled : Restyled tree changed) :
    parse? other = parse? source ∧ ∀ schema, parse? source = some schema →
      ∃ listing, ListsEvents tree listing ∧ Gathers listing schema.events := by
  rw [h.parse?_eq, h'.parse?_eq]
  exact ⟨ofTree?_restyled hrestyled, fun schema => ofTree?_gathers⟩

/-- A scalar that is written plainly. -/
def plain (text : String) : Scalar :=
  ⟨text, .plain, none⟩

/-- A parameter of `B` is put in another order around an unknown key, the parameters of `A` are
written as nothing, and a default is added. -/
theorem parse?_restyled_reordered :
    ∃ tree changed, Holds "events: \x7bB: [\x7bname: a, type: u8\x7d], A: []\x7d" tree ∧
      Holds "defs: []\nevents: \x7bB: [\x7btype: u8, x: , name: a\x7d], A: \x7d" changed ∧
      Restyled tree changed ∧
      parse? "defs: []\nevents: \x7bB: [\x7btype: u8, x: , name: a\x7d], A: \x7d" =
        some ⟨[], [], [("B", [⟨"a", "u8"⟩]), ("A", [])]⟩ := by
  have hsource : Holds "events: \x7bB: [\x7bname: a, type: u8\x7d], A: []\x7d" (.mapping [
      (.scalar (plain "events"), .mapping [
        (.scalar (plain "B"), .sequence [.mapping [
          (.scalar (plain "name"), .scalar (plain "a")),
          (.scalar (plain "type"), .scalar (plain "u8"))]]),
        (.scalar (plain "A"), .sequence [])])]) := by
    have hparsed : Yaml.Node.parse? "events: \x7bB: [\x7bname: a, type: u8\x7d], A: []\x7d" =
        some (.mapping [
          (.scalar (plain "events"), .mapping [
            (.scalar (plain "B"), .sequence [.mapping [
              (.scalar (plain "name"), .scalar (plain "a")),
              (.scalar (plain "type"), .scalar (plain "u8"))]]),
            (.scalar (plain "A"), .sequence [])])]) := by decide +kernel
    refine .document (by decide +kernel) hparsed ?_
    simp [Tree.ofDocument?, Tree.ofNode, Tree.ofField, Tree.target, Tree.ofText, outline, plain]
  have hother : Holds
      "defs: []\nevents: \x7bB: [\x7btype: u8, x: , name: a\x7d], A: \x7d" (.mapping [
        (.scalar (plain "defs"), .sequence []),
        (.scalar (plain "events"), .mapping [
          (.scalar (plain "B"), .sequence [.mapping [
            (.scalar (plain "type"), .scalar (plain "u8")),
            (.scalar (plain "x"), .unread),
            (.scalar (plain "name"), .scalar (plain "a"))]]),
          (.scalar (plain "A"), .scalar (plain ""))])]) := by
    have hparsed : Yaml.Node.parse?
        "defs: []\nevents: \x7bB: [\x7btype: u8, x: , name: a\x7d], A: \x7d" =
        some (.mapping [
          (.scalar (plain "defs"), .sequence []),
          (.scalar (plain "events"), .mapping [
            (.scalar (plain "B"), .sequence [.mapping [
              (.scalar (plain "type"), .scalar (plain "u8")),
              (.scalar (plain "x"), .scalar (plain "")),
              (.scalar (plain "name"), .scalar (plain "a"))]]),
            (.scalar (plain "A"), .scalar (plain ""))])]) := by decide +kernel
    refine .document (by decide +kernel) hparsed ?_
    simp [Tree.ofDocument?, Tree.ofNode, Tree.ofField, Tree.target, Tree.ofText, outline, plain]
  refine ⟨_, _, hsource, hother, ?restyled,
    (parse?_restyled hsource hother ?restyled).1.trans (by decide +kernel)⟩
  have hunknown : ∀ field ∈ typedNameFields, field.key ≠ (plain "x").text := by
    simp [typedNameFields, Field.required, plain]
  have hevents : Field.table "events" (ListAlike (RecordAlike typedNameFields)) ∈ schemaFields := by
    simp [schemaFields]
  have hdefs : Field.list "defs" (RecordAlike definitionFields) ∈ schemaFields := by
    simp [schemaFields]
  apply RecordAlike.entries
  refine Relation.EqvGen.trans _ _ _ ?events (.rel _ _ (.default [] [_] hdefs rfl rfl ?absent))
  case events =>
    apply Relation.EqvGen.rel
    apply Restyles.value [] [] hevents rfl
    refine .entries (.cons ⟨rfl, .items (.cons (.entries ?_) .nil)⟩
      (.cons ⟨rfl, .nothing none⟩ .nil))
    apply Relation.EqvGen.trans
    · exact .rel _ _ (.order (.swap _ _ _))
    · exact .rel _ _ (.unknown [_] [_] _ hunknown)
  case absent =>
    simp only [List.nil_append, List.mem_singleton, Prod.mk.injEq, Tree.scalar.injEq]
    rintro _ _ ⟨rfl, -⟩
    decide

end ContractLowering.Schema
