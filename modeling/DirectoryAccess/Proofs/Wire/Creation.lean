import DirectoryAccess.Operation.Write
import DirectoryAccess.Proofs.Entry.Changes
import DirectoryAccess.Proofs.Wire.Talk

/-!
# The creation of an entry on the wire

The message that creates an entry lists its attributes with their values. No value is lost, but an attribute
with values of both kinds is listed twice, once for each kind. A message lists every attribute once and with
all its values exactly if no attribute has values of both kinds (`add_carries`); servers take no other.
-/

namespace DirectoryAccess

open Std

/-! ### Making up a set of attributes -/

/-- What a caller does to a set of attributes that is being made up. -/
inductive BuildStep where
  /-- The textual values of an attribute are changed, or it is taken out. -/
  | edit (e : Edit)
  /-- The attribute gets these values of bytes in place of those it has. -/
  | setBytes (name : String) (values : List (List UInt8))

namespace BuildStep

/-- The attributes after a step. -/
def apply : BuildStep → Attributes → Attributes
  | .edit e, a => e.apply a
  | .setBytes name values, a => a.setBinary name values

/-- The attributes that are made up by some steps. -/
def built (steps : List BuildStep) : Attributes := steps.foldl (fun a step => step.apply a) .empty

theorem wellFormed_apply {a : Attributes} (h : a.WellFormed) (step : BuildStep) :
    (step.apply a).WellFormed := by
  cases step with
  | edit e => exact Edit.wellFormed_apply h e
  | setBytes name values => exact h.setBinary name values

theorem wellFormed_built (steps : List BuildStep) : (built steps).WellFormed :=
  List.foldlRecOn steps _ .empty fun _ h step _ => wellFormed_apply h step

end BuildStep

/-! ### Values of both kinds -/

/-- All values of an attribute, as bytes. -/
def Attributes.allValues (a : Attributes) (n : String) : List (List UInt8) :=
  (a.values n).map Text.bytes ++ (a.binary? n).getD []

theorem Attributes.mem_allValues {a : Attributes} {n : String} {v : List UInt8} :
    v ∈ a.allValues n ↔
      (∃ values, a.text? n = some values ∧ v ∈ values.map Text.bytes) ∨
      ∃ values, a.binary? n = some values ∧ v ∈ values := by
  rw [allValues, values, List.mem_append]
  cases a.text? n <;> cases a.binary? n <;> simp

namespace Wire

/-- A message carries every attribute once, with all its values. -/
structure CarriesWhole (a : Attributes) (sent : List (String × List Value)) : Prop where
  /-- No attribute is listed twice. -/
  once : (sent.map Prod.fst).Nodup
  /-- An attribute that has a value is listed with its values and no others. -/
  whole (n : String) : a.allValues n ≠ [] →
    ∃ values, (foldName n, values) ∈ sent ∧ ∀ v, v ∈ values ↔ v ∈ a.allValues n

/-- A message lists every attribute once for each kind of values that it has. -/
structure Lists (a : Attributes) (sent : List (String × List Value)) : Prop where
  /-- The names are listed in lower case. -/
  folded (n : String) : n ∈ sent.map Prod.fst → foldName n = n
  /-- The values that are listed for an attribute are those that it has, of both kinds. -/
  values (n : String) (v : Value) :
    (∃ values, (foldName n, values) ∈ sent ∧ v ∈ values) ↔ v ∈ a.allValues n
  /-- It is listed once for its textual values and once for its bytes. -/
  count (n : String) : (sent.map Prod.fst).count (foldName n) =
    (if (a.text? n).isSome then 1 else 0) + if (a.binary? n).isSome then 1 else 0

variable {a : Attributes} {sent : List (String × List Value)} {n : String}

/-- If no name is listed twice, all values of an attribute are listed in one place. -/
theorem Lists.carriesWhole (h : Lists a sent) (honce : (sent.map Prod.fst).Nodup) :
    CarriesWhole a sent := by
  refine ⟨honce, fun n hsome => ?_⟩
  obtain ⟨v, hv⟩ := List.exists_mem_of_ne_nil _ hsome
  obtain ⟨values, hlisted, -⟩ := (h.values n v).2 hv
  refine ⟨values, hlisted, fun w => ⟨fun hw => (h.values n w).1 ⟨values, hlisted, hw⟩, fun hw => ?_⟩⟩
  obtain ⟨values', hlisted', hw'⟩ := (h.values n w).2 hw
  have hsame : (foldName n, values) = (foldName n, values') :=
    List.inj_on_of_nodup_map honce hlisted hlisted' rfl
  obtain rfl : values = values' := congrArg Prod.snd hsame
  exact hw'

/-- Names are listed twice only for attributes with values of both kinds. -/
theorem Lists.carriesWhole_iff (h : Lists a sent) :
    CarriesWhole a sent ↔ ∀ n, a.text? n = none ∨ a.binary? n = none := by
  constructor
  · intro hwhole n
    have hcount := List.nodup_iff_count_le_one.1 hwhole.once (foldName n)
    rw [h.count] at hcount
    cases htext : a.text? n with
    | none => exact .inl rfl
    | some texts =>
      cases hbytes : a.binary? n with
      | none => exact .inr rfl
      | some listed => simp [htext, hbytes] at hcount
  · intro hone
    refine h.carriesWhole (List.nodup_iff_count_le_one.2 fun name => ?_)
    by_cases hlisted : name ∈ sent.map Prod.fst
    · rw [← h.folded name hlisted, h.count]
      obtain hnone | hnone := hone name
      · rw [hnone, Option.isSome_none, if_neg Bool.false_ne_true, Nat.zero_add]
        split <;> decide
      · rw [hnone, Option.isSome_none, if_neg Bool.false_ne_true, Nat.add_zero]
        split <;> decide
    · rw [List.count_eq_zero_of_not_mem hlisted]
      decide

theorem names_attributesToSend (a : Attributes) :
    (attributesToSend a).map Prod.fst = a.text.keys ++ a.binary.keys := by
  rw [attributesToSend, List.map_append, List.map_map, List.map_map]
  rfl

/-- What is listed under the name of an attribute are its textual values and its bytes, each on its own. -/
theorem mem_attributesToSend (h : a.WellFormed) {values : List Value} :
    (foldName n, values) ∈ attributesToSend a ↔
      (∃ texts, a.text? n = some texts ∧ distinct (texts.map Text.bytes) = values) ∨
      ∃ listed, a.binary? n = some listed ∧ distinct listed = values := by
  simp [attributesToSend, h.text.mem_toList_iff, h.binary.mem_toList_iff, foldName_foldName,
    Attributes.text?, Attributes.binary?]

theorem lists_attributesToSend (h : a.WellFormed) : Lists a (attributesToSend a) where
  folded n hn := by
    rw [names_attributesToSend] at hn
    exact (List.mem_append.1 hn).elim (h.text.folded n) (h.binary.folded n)
  values n v := by
    rw [Attributes.mem_allValues]
    constructor
    · rintro ⟨values, hlisted, hv⟩
      obtain ⟨texts, htexts, rfl⟩ | ⟨listed, hbytes, rfl⟩ := (mem_attributesToSend h).1 hlisted
      · exact .inl ⟨texts, htexts, mem_distinct.1 hv⟩
      · exact .inr ⟨listed, hbytes, mem_distinct.1 hv⟩
    · rintro (⟨texts, htexts, hv⟩ | ⟨listed, hbytes, hv⟩)
      · exact ⟨_, (mem_attributesToSend h).2 (.inl ⟨texts, htexts, rfl⟩), mem_distinct.2 hv⟩
      · exact ⟨_, (mem_attributesToSend h).2 (.inr ⟨listed, hbytes, rfl⟩), mem_distinct.2 hv⟩
  count n := by
    rw [names_attributesToSend, List.count_append, h.text.count_keys, h.binary.count_keys]
    rfl

namespace Network

/-- One message is sent to create an entry, or none if a set of values is empty. -/
theorem add_recorded (session : Nat) (name : DistinguishedName) (a : Attributes) (n : Network) :
    (add session name a n).2.events = n.events ++
      if ∃ e ∈ attributesToSend a, e.2 = [] then []
      else [.requested session (.add (fullText n.settings.base name) (attributesToSend a))
        (session ∉ n.lost)] := by
  have hempty : (attributesToSend a).any (·.2.isEmpty) = true ↔ ∃ e ∈ attributesToSend a, e.2 = [] := by
    simp only [List.any_eq_true, List.isEmpty_iff]
  simp only [add, hempty]
  split
  · exact (List.append_nil _).symm
  · exact (perform_recorded rfl).1

/-- **What is sent to create an entry.** Whatever attributes are made up, all their values are listed under
their names, those that are texts apart from those that are not. The message therefore carries every
attribute once and as a whole exactly if there is none with values of both kinds. -/
theorem add_carries (steps : List BuildStep) (session : Nat) (name : DistinguishedName) (n : Network) :
    let a := BuildStep.built steps
    let sent := attributesToSend a
    ((add session name a n).2.events = n.events ++
      if ∃ e ∈ sent, e.2 = [] then []
      else [.requested session (.add (fullText n.settings.base name) sent) (session ∉ n.lost)]) ∧
    Lists a sent ∧
    (CarriesWhole a sent ↔ ∀ m, a.text? m = none ∨ a.binary? m = none) := by
  intro a sent
  have hlists : Lists a sent := lists_attributesToSend (BuildStep.wellFormed_built steps)
  exact ⟨add_recorded session name a n, hlists, hlists.carriesWhole_iff⟩

/-- A person whose key is given as a text and as bytes. -/
def keyHolder : Attributes := BuildStep.built
  [.edit (.setValue "objectClass" "person"), .edit (.setValue "key" "old"), .setBytes "key" [[0xff]]]

/-- A server that takes every request. -/
def registry : Network where
  settings := { urls := [⟨"ldap://server", "ldap", some "server", none⟩] }
  reach := reachAmong [("server", 389)]

/-- The key is listed twice. -/
theorem key_listed_twice :
    (createEntry (.text "cn=Ola") keyHolder registry).2.receivedOn 0 =
      [.add "cn=Ola" [("key", [Text.bytes "old"]), ("objectclass", [Text.bytes "person"]),
        ("key", [[0xff]])], .unbind] ∧
    ¬CarriesWhole keyHolder (attributesToSend keyHolder) := by
  have hnames : (attributesToSend keyHolder).map Prod.fst = ["key", "objectclass", "key"] := by
    decide +kernel
  refine ⟨by decide +kernel, fun hwhole => ?_⟩
  have honce := hwhole.once
  rw [hnames] at honce
  exact absurd honce (by decide)

end Network

end Wire

end DirectoryAccess
