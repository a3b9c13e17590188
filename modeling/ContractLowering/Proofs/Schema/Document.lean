import ContractLowering.Schema.Reader
import Mathlib.Data.List.Induction
import Mathlib.Data.List.Nodup
import Mathlib.Tactic.Common

/-! # Documents of schemas

A text holds a document, of which a schema is read. A document may list an event several times; in
the schema it stands once, at the place of its first entry and with the parameters of its last one.
-/

namespace ContractLowering

theorem mapM_eq_some {α β : Type} {f : α → Option β} {items : List α} {results : List β} :
    items.mapM f = some results ↔ List.Forall₂ (fun item b => f item = some b) items results := by
  induction items generalizing results with
  | nil =>
    rw [List.mapM_nil]
    constructor
    · rintro ⟨⟩
      exact .nil
    · rintro ⟨⟩
      rfl
  | cons item items ih =>
    simp only [List.mapM_cons, Option.bind_eq_bind, Option.bind_eq_some_iff, Option.pure_def,
      Option.some.injEq, ih]
    constructor
    · rintro ⟨b, hitem, later, hitems, rfl⟩
      exact .cons hitem hitems
    · rintro (_ | ⟨hitem, hitems⟩)
      exact ⟨_, hitem, _, hitems, rfl⟩

namespace Schema

open Yaml (Tree)

/-- The tree of the document that a text holds; a blank text holds an empty document. -/
inductive Holds (source : String) : Tree → Prop
  | blank (unwritten : source.toList.all isWhiteSpace = true) :
      Holds source (.scalar ⟨"", .plain, none⟩)
  | document {node : Yaml.Node} {tree : Tree} (written : source.toList.all isWhiteSpace = false)
      (parsed : Yaml.Node.parse? source = some node)
      (composed : Tree.ofDocument? outline node = some tree) : Holds source tree

theorem Holds.parse?_eq {source : String} {tree : Tree} (h : Holds source tree) :
    parse? source = ofTree? tree := by
  cases h with
  | blank hblank =>
    rw [parse?, if_pos hblank]
    rfl
  | document hwritten hparsed hcomposed =>
    simp [parse?, hwritten, hparsed, hcomposed]

theorem exists_holds {source : String} {schema : Schema} (h : parse? source = some schema) :
    ∃ tree, Holds source tree ∧ ofTree? tree = some schema := by
  cases hblank : source.toList.all isWhiteSpace with
  | true =>
    have hholds : Holds source _ := .blank hblank
    exact ⟨_, hholds, hholds.parse?_eq ▸ h⟩
  | false =>
    simp only [parse?, hblank, Bool.false_eq_true, if_false, Option.bind_eq_bind,
      Option.bind_eq_some_iff] at h
    obtain ⟨node, hparsed, tree, hcomposed, htree⟩ := h
    exact ⟨tree, .document hblank hparsed hcomposed, htree⟩

/-- The events of a document or of a schema, in their order. -/
abbrev Listing := List (String × List TypedName)

/-- The entry of an event: its name, and the list of its parameters. -/
def ListsEvent (entry : String × Tree) (event : String × List TypedName) : Prop :=
  event.1 = entry.1 ∧ Tree.listOf TypedName.read entry.2 = some event.2

/-- The events that a document lists, in its order; a name may be repeated. -/
inductive ListsEvents (tree : Tree) : Listing → Prop
  | none {record : Record} (entries : tree.entries? = some record)
      (absent : "events" ∉ record.map Prod.fst) : ListsEvents tree []
  | some {record events : Record} {value : Tree} {listing : Listing}
      (entries : tree.entries? = some record) (known : ("events", value) ∈ record)
      (table : value.entries? = some events)
      (listed : List.Forall₂ ListsEvent events listing) : ListsEvents tree listing

/-- Every event of a listing stands once, where the listing has its name first, and with what the
listing gives it last. -/
structure Gathers (listing events : Listing) : Prop where
  names : events.map Prod.fst = (listing.map Prod.fst).eraseDups
  distinct : (events.map Prod.fst).Nodup
  last : ∀ event ∈ events, ∃ before after, listing = before ++ event :: after ∧
    event.1 ∉ after.map Prod.fst

section Events

variable {name : String} {parameters : List TypedName} {events : Listing}

theorem map_fst_setEvent : (setEvent name parameters events).map Prod.fst =
    if name ∈ events.map Prod.fst then events.map Prod.fst else events.map Prod.fst ++ [name] := by
  induction events with
  | nil => rfl
  | cons event events ih =>
    by_cases hname : event.1 = name
    · simp [setEvent, hname]
    · simp only [setEvent, hname, if_false, List.map_cons, List.mem_cons, Ne.symm hname, ih,
        false_or]
      split <;> rfl

theorem mem_setEvent (distinct : (events.map Prod.fst).Nodup) {event : String × List TypedName} :
    event ∈ setEvent name parameters events ↔
      event = (name, parameters) ∨ event ∈ events ∧ event.1 ≠ name := by
  induction events with
  | nil => simp [setEvent]
  | cons known events ih =>
    rw [List.map_cons, List.nodup_cons] at distinct
    by_cases hname : known.1 = name
    · -- the first event of the name is replaced, and it is the only one
      have hothers : ∀ other ∈ events, other.1 ≠ name := by
        rintro other hother rfl
        exact distinct.1 (hname ▸ List.mem_map_of_mem hother)
      simp only [setEvent, hname, if_true, List.mem_cons]
      constructor
      · rintro (rfl | hevent)
        · exact .inl rfl
        · exact .inr ⟨.inr hevent, hothers _ hevent⟩
      · rintro (rfl | ⟨rfl | hevent, hne⟩)
        · exact .inl rfl
        · exact absurd hname hne
        · exact .inr hevent
    · simp only [setEvent, hname, if_false, List.mem_cons, ih distinct.2]
      constructor
      · rintro (rfl | rfl | ⟨hevent, hne⟩)
        · exact .inr ⟨.inl rfl, hname⟩
        · exact .inl rfl
        · exact .inr ⟨.inr hevent, hne⟩
      · rintro (rfl | ⟨rfl | hevent, hne⟩)
        · exact .inr (.inl rfl)
        · exact .inl rfl
        · exact .inr (.inr ⟨hevent, hne⟩)

/-- One more entry of a listing keeps the other events, and gives its own a place or a new list of
parameters. -/
theorem Gathers.setEvent {listing : Listing} (h : Gathers listing events) :
    Gathers (listing ++ [(name, parameters)]) (setEvent name parameters events) where
  names := by
    rw [map_fst_setEvent, h.names, List.map_append, List.eraseDups_append]
    by_cases hname : name ∈ listing.map Prod.fst
    · simp [hname, List.removeAll]
    · simp [hname, List.removeAll, List.eraseDups_cons]
  distinct := by
    rw [map_fst_setEvent]
    split
    · exact h.distinct
    · rename_i hname
      exact List.nodup_append.mpr ⟨h.distinct, List.nodup_singleton _, by grind⟩
  last event hevent := by
    rcases (mem_setEvent h.distinct).mp hevent with rfl | ⟨hknown, hne⟩
    · exact ⟨listing, [], rfl, List.not_mem_nil⟩
    · obtain ⟨before, after, rfl, hafter⟩ := h.last event hknown
      refine ⟨before, after ++ [(name, parameters)], by simp, ?_⟩
      simp only [List.map_append, List.map_cons, List.map_nil, List.mem_append,
        List.mem_singleton]
      rintro (hname | hname)
      · exact hafter hname
      · exact hne hname

/-- The events of a listing as a schema keeps them. -/
def gather (listing : Listing) : Listing :=
  listing.foldl (fun known event => Schema.setEvent event.1 event.2 known) []

theorem gathers_gather (listing : Listing) : Gathers listing (gather listing) := by
  induction listing using List.reverseRecOn with
  | nil => exact ⟨rfl, List.nodup_nil, nofun⟩
  | append_singleton listing event ih =>
    rw [gather, List.foldl_append]
    exact ih.setEvent

end Events

def readEvent (entry : String × Tree) : Option (String × List TypedName) := do
  return (entry.1, ← Tree.listOf TypedName.read entry.2)

theorem readEvent_eq_some {entry : String × Tree} {event : String × List TypedName} :
    readEvent entry = some event ↔ ListsEvent entry event := by
  simp only [readEvent, ListsEvent, Option.bind_eq_bind, Option.bind_eq_some_iff, Option.pure_def,
    Option.some.injEq]
  constructor
  · rintro ⟨parameters, hlisted, rfl⟩
    exact ⟨rfl, hlisted⟩
  · rintro ⟨hname, hlisted⟩
    exact ⟨event.2, hlisted, by rw [← hname]⟩

theorem readEvents_eq (tree : Tree) :
    readEvents tree = tree.entries?.bind fun entries => (entries.mapM readEvent).map gather := by
  simp only [readEvents, Option.map_eq_bind]
  rfl

theorem Record.notMem_of_get? {record : Record} {key : String}
    (h : record.get? key = some none) : key ∉ record.map Prod.fst := by
  unfold get? at h
  split at h
  · rename_i hnone
    intro hkey
    obtain ⟨entry, hentry, rfl⟩ := List.mem_map.mp hkey
    exact List.filter_eq_nil_iff.mp hnone entry hentry (by simp)
  · exact nomatch h
  · exact nomatch h

theorem Record.mem_of_get? {record : Record} {key : String} {value : Tree}
    (h : record.get? key = some (some value)) : (key, value) ∈ record := by
  unfold get? at h
  split at h
  · exact nomatch h
  · rename_i entry honly
    obtain ⟨hentry, hkey⟩ := List.mem_filter.mp (honly ▸ List.mem_singleton_self entry)
    simp only [decide_eq_true_eq] at hkey
    simp only [Option.some.injEq] at h
    rwa [← hkey, ← h]
  · exact nomatch h

/-- The events of a schema are those that its document lists. -/
theorem ofTree?_gathers {tree : Tree} {schema : Schema} (h : ofTree? tree = some schema) :
    ∃ listing, ListsEvents tree listing ∧ Gathers listing schema.events := by
  simp only [ofTree?, Option.bind_eq_bind, Option.bind_eq_some_iff, Option.pure_def,
    Option.some.injEq] at h
  obtain ⟨record, hentries, state, -, definitions, -, events, hevents, rfl⟩ := h
  obtain ⟨known, hknown, hread⟩ := Option.bind_eq_some_iff.mp hevents
  cases known with
  | none =>
    cases hread
    exact ⟨[], .none hentries (Record.notMem_of_get? hknown), gathers_gather []⟩
  | some value =>
    simp only [readEvents_eq] at hread
    obtain ⟨entries, htable, hread⟩ := Option.bind_eq_some_iff.mp hread
    obtain ⟨listing, hlisted, rfl⟩ := Option.map_eq_some_iff.mp hread
    simp only [mapM_eq_some, readEvent_eq_some] at hlisted
    exact ⟨listing, .some hentries (Record.mem_of_get? hknown) htable hlisted,
      gathers_gather listing⟩

end Schema

end ContractLowering
