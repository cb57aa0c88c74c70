import DirectoryAccess.Operation.Read
import DirectoryAccess.Proofs.DistinguishedName.Hierarchy
import DirectoryAccess.Proofs.Wire.Delivery

/-!
# Children that a listing leaves out

A server may spell names in letters of another case than the client does. The base is taken off a name
that was returned whatever its letters, but a listing keeps the children only whose names go on with the
name that was asked for, letter by letter. So a listing returns all children that the server returned
exactly if their parent is spelled in each of them as the caller spelled it (`list_delivered`).
-/

namespace DirectoryAccess

namespace DistinguishedName

/-- The own part of a name, as a name below the root. -/
def ownName (m : DistinguishedName) : DistinguishedName := ⟨m.leaf?.toList⟩

/-- Whether the name of the parent begins with `n`, but for the letter case of attribute types. -/
def spellsParent (n m : DistinguishedName) : Bool :=
  m.parent?.any fun p => matchesName .caseSensitive ⟨p.rdns.take n.length⟩ n

/-- A name that matches one in full consists of two parts that match the two parts of that name. -/
theorem matchesName_under {c : ValueComparison} {rest : List RelativeName} {n base : DistinguishedName}
    (h : matchesName c ⟨rest⟩ (n.under base) = true) :
    (rest.take n.length).length = n.length ∧ (rest.drop n.length).length = base.length ∧
      matchesName c ⟨rest.drop n.length⟩ base = true := by
  have hfold : rest.map (RelativeName.fold c) =
      n.rdns.map (RelativeName.fold c) ++ base.rdns.map (RelativeName.fold c) :=
    (beq_iff_eq.1 h).trans List.map_append
  have hlen : rest.length = n.length + base.length := by
    have hlengths := congrArg List.length hfold
    rw [List.length_append, List.length_map, List.length_map, List.length_map] at hlengths
    exact hlengths
  refine ⟨by rw [List.length_take]; omega, by rw [List.length_drop]; omega, beq_iff_eq.2 ?_⟩
  have hn : n.length = (n.rdns.map (RelativeName.fold c)).length := (List.length_map _).symm
  change (rest.drop n.length).map (RelativeName.fold c) = base.rdns.map (RelativeName.fold c)
  rw [List.map_drop, hfold, hn, List.drop_left]

end DistinguishedName

namespace Wire

open DirectoryServer DistinguishedName

/-- The entry is returned under the full name `m` of a child of `n`, whatever letters it is spelled in. -/
structure ReturnsChild (base n : DistinguishedName) (e : ReturnedEntry) (m : DistinguishedName) :
    Prop where
  /-- The name can be read. -/
  read : DistinguishedName.parse e.name = .ok m
  /-- Its parent is `n` in full, up to the letter case of values. -/
  below : m.parent?.any (fun p => p.matchesName .caseInsensitive (n.under base)) = true

variable {base n m : DistinguishedName} {e : ReturnedEntry}

/-- The base is taken off the name of a child. What is left is made relative to the parent exactly if
the parent is spelled as it should be. -/
theorem ReturnsChild.received (h : ReturnsChild base n e m) :
    ∃ r, receivedName base e.name = .ok r ∧
      r.relativeTo? n = if spellsParent n m then some m.ownName else none := by
  obtain ⟨hread, hbelow⟩ := h
  obtain ⟨rdns⟩ := m
  cases rdns with
  | nil => cases hbelow
  | cons own rest =>
    obtain ⟨hfront, hback, hbase⟩ := matchesName_under hbelow
    have hsplit : own :: rest = (own :: rest.take n.length) ++ rest.drop n.length := by
      rw [List.cons_append, List.take_append_drop]
    refine ⟨⟨own :: rest.take n.length⟩, ?_, ?_⟩
    · rw [receivedName, hread, hsplit]
      change Except.ok ((relativeToWith? .caseInsensitive ⟨_ ++ _⟩ base).getD _) = _
      rw [relativeToWith?_append hback, if_pos hbase]
      rfl
    · exact @relativeToWith?_append .caseSensitive [own] _ n hfront

/-- The children that are returned are received. Of their names a listing keeps those in which the parent
is spelled as it should be. -/
theorem exists_receives {entries : List ReturnedEntry} {names : List DistinguishedName}
    (h : List.Forall₂ (ReturnsChild base n) entries names) :
    ∃ found, Network.Receives base found entries ∧
      (found.map FoundEntry.name).filterMap (·.relativeTo? n) =
        (names.filter (spellsParent n)).map ownName := by
  induction h with
  | nil => exact ⟨[], .nil, rfl⟩
  | @cons e m entries names hchild _ ih =>
    obtain ⟨found, hfound, hnames⟩ := ih
    obtain ⟨r, hr, hrelative⟩ := hchild.received
    refine ⟨⟨r, receivedAttributes e.attributes⟩ :: found, .cons (by rw [receivedEntry, hr]) hfound, ?_⟩
    rw [List.map_cons, List.filterMap_cons, hrelative, hnames]
    cases hspelled : spellsParent n m with
    | true => simp [hspelled]
    | false => simp [hspelled]

section

variable {net opened : Network} {session : Nat} {name : NameInput} {replies rest : List Reply}
  {entries : List ReturnedEntry} {names : List DistinguishedName}

variable (hname : name.resolve = .ok n)
  (hconnect : connect .readOnly net = (.ok session, opened)) (hup : session ∉ opened.lost)
  (hscript : opened.script = replies ++ rest)
  (hreplies : Network.Delivers net.settings.pageSize?.isSome replies entries)
  (hchildren : List.Forall₂ (ReturnsChild net.settings.base n) entries names)

include hname hconnect hup hscript hreplies hchildren

theorem list_eq : (list name net).1 = .ok ((names.filter (spellsParent n)).map ownName) := by
  have hsettings : opened.settings = net.settings := by
    have h := Network.settings_connect .readOnly net
    rwa [show Network.connect .readOnly net = _ from hconnect] at h
  obtain ⟨found, hfound, hnames⟩ := exists_receives hchildren
  rw [← hsettings] at hreplies hfound
  have hfilter : Filter.isWellFormed SearchRequest.anyEntry = true := by decide +kernel
  have hall := @Network.searchAll_of_delivers opened session (.children n noAttributes) _ _ _ _
    hfilter hup hscript hreplies hfound
  have hlisted : (childNames session n opened).1 = .ok (found.map FoundEntry.name) := by
    rw [childNames]
    dsimp only
    rw [hall]
    rfl
  rw [list, named, hname]
  dsimp only
  rw [requested_of_connect hconnect]
  dsimp only
  rw [hlisted]
  exact congrArg Except.ok hnames

/-- **What a listing returns of the children that the server returned.** Whatever the base is and in
however many pages they come, it returns the own parts of their names, in their order, but only of those
names in which the parent is spelled as the caller spelled it. So it returns them all exactly if all of
them are so spelled. -/
theorem list_delivered :
    (list name net).1 = .ok ((names.filter (spellsParent n)).map ownName) ∧
    ((list name net).1 = .ok (names.map ownName) ↔ ∀ m ∈ names, spellsParent n m = true) := by
  have hlist := list_eq hname hconnect hup hscript hreplies hchildren
  refine ⟨hlist, ?_⟩
  rw [hlist]
  constructor
  · intro hall
    have hlength := congrArg List.length (Except.ok.inj hall)
    rw [List.length_map, List.length_map] at hlength
    exact List.length_filter_eq_length_iff.1 hlength
  · intro hall
    rw [List.filter_eq_self.2 hall]

end

/-- The name that a text spells, or else the root. -/
def nameOf (text : String) : DistinguishedName := (DistinguishedName.parse text).toOption.getD .root

/-- An entry whose name is returned with the base in other letters. -/
def ann : ReturnedEntry := ⟨"cn=Ann,ou=people,dc=Org", []⟩

/-- An entry whose name is returned with its parent in other letters. -/
def bo : ReturnedEntry := ⟨"cn=Bo,ou=People,dc=org", []⟩

/-- A server that returns the two entries in pages of one. -/
def people : Network where
  settings :=
    { urls := [⟨"ldap://server", "ldap", some "server", none⟩], base := nameOf "dc=org"
      pageSize? := some 1 }
  reach := reachAmong [("server", 389)]
  script := [.answer { entries := [ann], cookie := [1] }, .answer { entries := [bo] }]

theorem delivers_people : Network.Delivers true people.script [ann, bo] :=
  .page rfl rfl (by decide) (.last rfl rfl fun _ => rfl)

theorem returnsChild_people : List.Forall₂ (ReturnsChild people.settings.base (nameOf "ou=people"))
    [ann, bo] [nameOf ann.name, nameOf bo.name] := by
  have hann : ReturnsChild people.settings.base (nameOf "ou=people") ann (nameOf ann.name) :=
    ⟨by decide +kernel, by decide +kernel⟩
  have hbo : ReturnsChild people.settings.base (nameOf "ou=people") bo (nameOf bo.name) :=
    ⟨by decide +kernel, by decide +kernel⟩
  exact .cons hann (.cons hbo .nil)

/-- The server with the session that is opened on it. -/
def peopleOpened : Network := (Network.connect .readOnly people).2

theorem connect_people : Network.connect .readOnly people = (.ok 0, peopleOpened) :=
  Prod.ext (by decide +kernel) rfl

theorem script_peopleOpened : peopleOpened.script = people.script ++ [] := by decide +kernel

/-- A listing of the two returns the first and says if it returns both. -/
theorem list_delivered_people :
    (NameInput.text "ou=people").resolve = .ok (nameOf "ou=people") ∧
    Network.connect .readOnly people = (.ok 0, peopleOpened) ∧ 0 ∉ peopleOpened.lost ∧
    peopleOpened.script = people.script ++ [] ∧
    Network.Delivers people.settings.pageSize?.isSome people.script [ann, bo] ∧
    List.Forall₂ (ReturnsChild people.settings.base (nameOf "ou=people")) [ann, bo]
      [nameOf ann.name, nameOf bo.name] ∧
    (list (.text "ou=people") people).1 =
      .ok (([nameOf ann.name, nameOf bo.name].filter (spellsParent (nameOf "ou=people"))).map ownName) ∧
    ((list (.text "ou=people") people).1 = .ok ([nameOf ann.name, nameOf bo.name].map ownName) ↔
      ∀ m ∈ [nameOf ann.name, nameOf bo.name], spellsParent (nameOf "ou=people") m = true) := by
  have hname : (NameInput.text "ou=people").resolve = .ok (nameOf "ou=people") := by decide +kernel
  have hup : 0 ∉ peopleOpened.lost := by decide +kernel
  exact ⟨hname, connect_people, hup, script_peopleOpened, delivers_people, returnsChild_people,
    list_delivered hname connect_people hup script_peopleOpened delivers_people returnsChild_people⟩

/-- The second is left out. -/
theorem list_people_incomplete :
    List.Forall₂ (ReturnsChild people.settings.base (nameOf "ou=people")) [ann, bo]
      [nameOf ann.name, nameOf bo.name] ∧
    Network.Delivers people.settings.pageSize?.isSome peopleOpened.script [ann, bo] ∧
    (list (.text "ou=people") people).1 = .ok [nameOf "cn=Ann"] ∧
    (list (.text "ou=people") people).1 ≠ .ok ([nameOf ann.name, nameOf bo.name].map ownName) := by
  have hname : (NameInput.text "ou=people").resolve = .ok (nameOf "ou=people") := by decide +kernel
  have hlist := list_eq hname connect_people (by decide +kernel) script_peopleOpened delivers_people
    returnsChild_people
  have hkept : ([nameOf ann.name, nameOf bo.name].filter (spellsParent (nameOf "ou=people"))).map ownName =
      [nameOf "cn=Ann"] := by decide +kernel
  rw [hkept] at hlist
  refine ⟨returnsChild_people, ?_, hlist, ?_⟩
  · rw [script_peopleOpened]
    exact delivers_people
  · rw [hlist]
    decide +kernel

end Wire

end DirectoryAccess
