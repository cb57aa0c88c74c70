import DirectoryAccess.Proofs.DistinguishedName.Joining
import DirectoryAccess.Proofs.DistinguishedName.Order
import DirectoryAccess.Proofs.InMemory.MissingEntry
import DirectoryAccess.Proofs.InMemory.SearchOutcome
import DirectoryAccess.Proofs.InMemory.Update

/-!
# The ways of reading children

The children of an entry can be listed by name, read together, searched for, and read one by one. Each way
asks for something else and makes something else of the answer, but all of them find the same entries, those
below the name that have an object class (`Directory.children`), and bring them in the order of their names
(`children_agree`).
-/

namespace DirectoryAccess

variable {τ α : Type}

/-- The query asks for the immediate children of `n` with all their attributes. -/
structure SearchQuery.AsksForChildren (q : SearchQuery) (n : DistinguishedName) : Prop where
  /-- It starts at the name. -/
  base : q.base = n
  /-- It goes one level deep. -/
  scope : q.scope = .oneLevel
  /-- Every entry with an object class satisfies the filter. -/
  filter : toString q.filter = "(objectClass=*)"
  /-- There is no limit. -/
  sizeLimit : q.sizeLimit = 0
  /-- All attributes are wanted. -/
  attributes : q.attributes = []

/-- The mapper that keeps the context of an entry as it is. -/
def keepContext : Mapper τ EntryContext := .ofContext fun context t => (.ok context, t)

/-- Values that a function makes of entries are made of all of them. -/
theorem mapEach_of_pure {visit : FoundEntry → Step τ α} {f : FoundEntry → α}
    (hvisit : ∀ e t, visit e t = (.ok (f e), t)) (l : List FoundEntry) (t : τ) :
    mapEach visit l t = (.ok (l.map f), t) := by
  induction l with
  | nil => rfl
  | cons e rest ih =>
    rw [mapEach, hvisit e t]
    dsimp only
    rw [ih]
    rfl

theorem SearchQuery.AsksForChildren.sensible {query : SearchQuery} {n : DistinguishedName}
    (h : query.AsksForChildren n) : query.Sensible where
  limit := Int.le_of_eq h.sizeLimit.symm
  escapes := by
    rw [h.filter]
    exact SearchRequest.hexEscaped_anyEntry

namespace InMemory

open DistinguishedName

variable {d : Directory} {n : DistinguishedName} {name : NameInput} {query : SearchQuery}
  {ignorePartial : Bool} {t : τ}

namespace Directory

/-- The children of a name that can be read, with all their attributes. -/
def children (d : Directory) (n : DistinguishedName) : List FoundEntry := d.found (.children n [])

/-- A search finds the children if it goes one level deep, whatever else it asks for. -/
theorem found_eq_children {request : SearchRequest} (hbase : request.base = n)
    (hscope : request.scope = .oneLevel) (hfilter : request.filter = SearchRequest.anyEntry)
    (hall : ∀ a : Attributes, a.select request.attributes = a) : d.found request = d.children n := by
  have hnone : ∀ a : Attributes, a.select [] = a := fun _ => rfl
  simp only [children, found, SearchRequest.children, hbase, hscope, hfilter, hall, hnone]

/-- The names are found whichever attributes are asked for. -/
theorem names_found_eq_children (d : Directory) (n : DistinguishedName) (attributes : List String) :
    (d.found (.children n attributes)).map FoundEntry.name = (d.children n).map FoundEntry.name := by
  simp only [children, found, SearchRequest.children, List.map_map, Function.comp_def]

theorem ascending_children (h : d.entries.Ascending) (n : DistinguishedName) :
    (d.children n).Pairwise fun e e' => compare e.name e'.name = .lt :=
  (lists_found h _).ascending

theorem mem_children_iff (h : d.entries.Ascending) {e : FoundEntry} :
    e ∈ d.children n ↔ (e.name, e.attributes) ∈ d.entries.toList ∧ e.name.isChildOf n = true ∧
      e.attributes.contains "objectClass" = true := by
  rw [children, (lists_found h _).mem_iff]
  constructor
  · rintro ⟨a, hentry, hscope, haccepts, hselected⟩
    obtain rfl : e.attributes = a := hselected
    exact ⟨hentry, hscope, accepts_anyEntry e.attributes ▸ haccepts⟩
  · rintro ⟨hentry, hchild, hclass⟩
    exact ⟨e.attributes, hentry, hchild, (accepts_anyEntry e.attributes).trans hclass, rfl⟩

end Directory

/-! ### Relative names -/

/-- The own part of the name of an entry. -/
def ownPart (e : FoundEntry) : DistinguishedName := ⟨e.name.rdns.take 1⟩

theorem isChildOf_of_mem_children (hform : d.entries.Ascending) {e : FoundEntry} (he : e ∈ d.children n) :
    e.name.isChildOf n = true :=
  ((Directory.mem_children_iff hform).1 he).2.1

/-- Every child has a name relative to its parent, which is its own part. -/
theorem filterMap_relativeTo?_children (hform : d.entries.Ascending) (n : DistinguishedName) :
    ((d.children n).map FoundEntry.name).filterMap (·.relativeTo? n) = (d.children n).map ownPart := by
  have hrelative : ∀ e ∈ d.children n, e.name.relativeTo? n = some (ownPart e) := fun e he =>
    relativeTo?_of_isChildOf (isChildOf_of_mem_children hform he)
  rw [List.filterMap_map]
  exact (List.filterMap_congr hrelative).trans (congrFun List.filterMap_eq_map _)

/-- The own parts of the children are in the order of their full names. -/
theorem ascending_ownParts (hform : d.entries.Ascending) (n : DistinguishedName) :
    ((d.children n).map ownPart).Pairwise (compare · · = .lt) := by
  refine List.pairwise_map.2 ((Directory.ascending_children hform n).imp_of_mem ?_)
  intro e e' he he' hlt
  have hkey := key_of_relativeTo? (relativeTo?_of_isChildOf (isChildOf_of_mem_children hform he))
  have hkey' := key_of_relativeTo? (relativeTo?_of_isChildOf (isChildOf_of_mem_children hform he'))
  exact (compare_of_common_end hkey hkey').symm.trans hlt

theorem length_ownPart {e : FoundEntry} (h : e.name.isChildOf n = true) : (ownPart e).length = 1 := by
  have hlen := length_of_isChildOf h
  rw [length] at hlen
  rw [ownPart, length, List.length_take, hlen]
  omega

/-- The own part of a child, joined to the parent, is the name of the child. -/
theorem ownPart_under_beq {e : FoundEntry} (h : e.name.isChildOf n = true) :
    ((ownPart e).under n == e.name) = true :=
  (under_beq_iff_of_key_eq (key_of_relativeTo? (relativeTo?_of_isChildOf h))).2 (beq_self _)

/-! ### Names that can be searched -/

section

variable (hserves : d.Serves) (hplace : d.isPlace n = true)

include hserves hplace

theorem list_of_isPlace (hname : name.resolve = .ok n) (hform : d.entries.Ascending) :
    (list name d).1 = .ok ((d.children n).map ownPart) := by
  have hlist := childNames_found (hserves.logged [.acquire .readOnly]) hplace AccessMode.readOnly
  rw [Directory.found_logged, Directory.names_found_eq_children] at hlist
  rw [list, named, hname]
  dsimp only
  rw [requested_eq hserves .readOnly (by decide) (childNames · n) hlist]
  exact congrArg Except.ok (filterMap_relativeTo?_children hform n)

theorem listMapping_of_isPlace (hname : name.resolve = .ok n) (t : τ) :
    (listMapping name keepContext ⟨d, t⟩).1 =
      .ok ((d.children n).map (FoundEntry.context d.base)) := by
  let request := { SearchRequest.children n allAttributes with wholeEntries := true }
  have hplace' : (d.logged [.acquire .readOnly]).isPlace request.base = true := hplace
  have hread : childEntries AccessMode.readOnly n (d.logged [.acquire .readOnly]) = _ :=
    searchAll_eq (hserves.logged _) hplace' (cannotAnswer_children _ n allAttributes) rfl _
  rw [Directory.found_logged, Directory.found_eq_children rfl rfl rfl fun _ => rfl] at hread
  rw [listMapping, named, hname]
  dsimp only
  rw [requested_eq hserves .readOnly (by decide) (childEntries · n) hread]
  exact congrArg Prod.fst (mapEach_of_pure (fun _ _ => rfl) (d.children n) t)

theorem searchMapping_of_isPlace (hquery : query.AsksForChildren n) (ignorePartial : Bool) (t : τ) :
    (searchMapping ignorePartial query keepContext SearchHooks.none ⟨d, t⟩).1 =
      .ok ((d.children n).map (FoundEntry.context d.base)) := by
  let request := SearchRequest.ofQuery query (query.wantsWholeEntries true)
  have hbase : request.base = n := hquery.base
  have hanswers : d.Answers request :=
    ⟨hserves.search, hbase ▸ hplace, cannotAnswer_of_sensible (sensible_ofQuery hquery.sensible _) d⟩
  have hall : ∀ a : Attributes, a.select request.attributes = a := fun a => by
    change a.select query.attributes = a
    rw [hquery.attributes]
    rfl
  have hcontexts : d.contexts request = (d.children n).map (FoundEntry.context d.base) := by
    rw [Directory.contexts, handed_of_unlimited hquery.sizeLimit, Directory.delivered,
      hserves.partialAfter]
    exact congrArg _ (Directory.found_eq_children hquery.base hquery.scope hquery.filter hall)
  have hvisit : visitEach keepContext.map (d.contexts request) t =
      ⟨(d.contexts request).map id, .ok (), t⟩ := visitEach_of_pure (fun _ _ => rfl) _ t
  have hending : d.ending request = .ok () := by
    rw [ending_of_unlimited hquery.sizeLimit, Directory.cutsShort, hserves.partialAfter]
    rfl
  have hfinal : d.finalResult = .ok () := by
    rw [Directory.finalResult, hserves.referralAtEnd]
    rfl
  rw [searchMapping]
  refine (congrArg Prod.fst (searchVisiting_of_values hserves.acquire hanswers hvisit)).trans ?_
  dsimp only
  rw [hending, hfinal, List.map_id, hcontexts]
  rfl

end

/-- Every child can be read by its name, however the name is spelled. -/
theorem lookup_of_mem_children (hserves : d.Serves) (hform : d.entries.Ascending) {e : FoundEntry}
    (he : e ∈ d.children n) {m : DistinguishedName} (hname : name.resolve = .ok m)
    (hm : (m == e.name) = true) : (lookup name d).1 = .ok (e.context d.base) := by
  obtain ⟨hentry, -, hclass⟩ := (Directory.mem_children_iff hform).1 he
  rw [lookup_eq hserves hform hname hentry (compare_eq_iff_beq.2 hm) hclass]
  rfl

/-! ### Names that cannot be searched -/

section

variable (hserves : d.Serves) (hplace : d.isPlace n = false)

include hserves hplace

theorem list_of_missing (hname : name.resolve = .ok n) :
    (list name d).1 = .error (.nameNotFound "result code 32") := by
  have hlist := searchAll_of_missing (.children n noAttributes)
    (hserves.logged [.acquire Access.readOnly.mode]) hplace (cannotAnswer_children _ n _) Access.readOnly.mode
  have hrefused := requested_of_missing .readOnly hserves (by decide) (childNames · n)
    (by rw [childNames, hlist]; rfl)
  rw [list, named, hname]
  dsimp only
  rw [hrefused]
  rfl

theorem listMapping_of_missing (hname : name.resolve = .ok n) (t : τ) :
    (listMapping name keepContext ⟨d, t⟩).1 = .error (.nameNotFound "result code 32") := by
  have hread := searchAll_of_missing { SearchRequest.children n allAttributes with wholeEntries := true }
    (hserves.logged [.acquire Access.readOnly.mode]) hplace
    (cannotAnswer_children _ n allAttributes) Access.readOnly.mode
  have hrefused := requested_of_missing .readOnly hserves (by decide) (childEntries · n) hread
  rw [listMapping, named, hname]
  dsimp only
  rw [hrefused]

theorem lookup_of_missing (hname : name.resolve = .ok n) :
    (lookup name d).1 = .error (.nameNotFound "result code 32") := by
  have hread := searchAll_of_missing (.entry n []) (hserves.logged [.acquire Access.readOnly.mode]) hplace
    (cannotAnswer_entry _ n _) Access.readOnly.mode
  have hrefused := requested_of_missing .readOnly hserves (by decide) (readEntry · n [])
    (by rw [readEntry, hread])
  rw [lookup, named, hname]
  dsimp only
  rw [hrefused]
  rfl

theorem searchMapping_of_missing (hquery : query.AsksForChildren n) (ignorePartial : Bool) (t : τ) :
    (searchMapping ignorePartial query keepContext SearchHooks.none ⟨d, t⟩).1 =
      .error (.nameNotFound "result code 32") := by
  let request := SearchRequest.ofQuery query (query.wantsWholeEntries true)
  have hsense : d.cannotAnswer request = false :=
    cannotAnswer_of_sensible (sensible_ofQuery hquery.sensible _) d
  have hbase : request.base = n := hquery.base
  have hplace' : d.isPlace request.base = false := hbase ▸ hplace
  have hrefusal : d.refusal? request = some (.ofCode ResultCode.noSuchObject) := by
    rw [Directory.refusal?, hserves.search]
    exact if_neg (Bool.not_eq_true _ ▸ hplace')
  have hgathers : d.gathers request (keepContext (τ := τ)).map t =
      ({ walked := .error (.ofCode ResultCode.noSuchObject) }, t) := by
    rw [Directory.gathers, hrefusal]
  rw [searchMapping]
  refine (congrArg Prod.fst (searchVisiting_none hserves.acquire hsense)).trans ?_
  dsimp only
  rw [hgathers, Gathered.outcome, verdict, firstFault, Except.mapError, classify_noSuchObject]
  rfl

end

/-- **The ways of reading children agree.** Of a name that is the root or an entry all of them find the
entries immediately below it that have an object class, in ascending order of their names: a listing returns
their own parts, which joined to the name give the full names; they are read together with all their
attributes, and a search that asks for them brings the same; and each of them can be read by its name. Of
any other name all of them say that there is no such entry. -/
theorem children_agree (hserves : d.Serves) (hform : d.entries.Ascending)
    (hname : name.resolve = .ok n) (hquery : query.AsksForChildren n) (ignorePartial : Bool) (t : τ) :
    (d.isPlace n = true → ∃ (names : List DistinguishedName) (children : List FoundEntry),
      (children.Pairwise fun e e' => compare e.name e'.name = .lt) ∧
      (∀ e, e ∈ children ↔ (e.name, e.attributes) ∈ d.entries.toList ∧ e.name.isChildOf n = true ∧
        e.attributes.contains "objectClass" = true) ∧
      (list name d).1 = .ok names ∧
      names.Pairwise (compare · · = .lt) ∧ (∀ r ∈ names, r.length = 1) ∧
      List.Forall₂ (fun r e => (r.under n == e.name) = true) names children ∧
      (listMapping name keepContext ⟨d, t⟩).1 = .ok (children.map (FoundEntry.context d.base)) ∧
      (searchMapping ignorePartial query keepContext SearchHooks.none ⟨d, t⟩).1 =
        .ok (children.map (FoundEntry.context d.base)) ∧
      ∀ e ∈ children, ∀ input m, NameInput.resolve input = .ok m → (m == e.name) = true →
        (lookup input d).1 = .ok (e.context d.base)) ∧
    (d.isPlace n = false →
      (list name d).1 = .error (.nameNotFound "result code 32") ∧
      (listMapping name keepContext ⟨d, t⟩).1 = .error (.nameNotFound "result code 32") ∧
      (searchMapping ignorePartial query keepContext SearchHooks.none ⟨d, t⟩).1 =
        .error (.nameNotFound "result code 32") ∧
      (lookup name d).1 = .error (.nameNotFound "result code 32")) := by
  constructor
  · intro hplace
    refine ⟨_, d.children n, Directory.ascending_children hform n, fun _ => Directory.mem_children_iff hform,
      list_of_isPlace hserves hplace hname hform, ascending_ownParts hform n, fun r hr => ?_, ?_,
      listMapping_of_isPlace hserves hplace hname t, searchMapping_of_isPlace hserves hplace hquery _ t,
      fun e he input m hinput hm => lookup_of_mem_children hserves hform he hinput hm⟩
    · obtain ⟨e, he, rfl⟩ := List.mem_map.1 hr
      exact length_ownPart (isChildOf_of_mem_children hform he)
    · refine List.forall₂_map_left_iff.2 (List.forall₂_same.2 fun e he => ?_)
      exact ownPart_under_beq (isChildOf_of_mem_children hform he)
  · intro hplace
    exact ⟨list_of_missing hserves hplace hname, listMapping_of_missing hserves hplace hname t,
      searchMapping_of_missing hserves hplace hquery ignorePartial t,
      lookup_of_missing hserves hplace hname⟩

/-- The query for the children of a country. -/
def companies (country : DistinguishedName) : SearchQuery :=
  { base := country, filter := .present "objectClass", scope := .oneLevel }

/-- The company is among the children of the country, whichever way they are read, and of a country that is
not there all of them say so. -/
theorem children_agree_sweden :
    (∃ (names : List DistinguishedName) (children : List FoundEntry),
      (list (.name sweden) countries).1 = .ok names ∧
      List.Forall₂ (fun r e => (r.under sweden == e.name) = true) names children ∧
      (listMapping (.name sweden) keepContext ⟨countries, ()⟩).1 =
        .ok (children.map (FoundEntry.context .root)) ∧
      (searchMapping false (companies sweden) keepContext SearchHooks.none ⟨countries, ()⟩).1 =
        .ok (children.map (FoundEntry.context .root)) ∧
      ∃ e ∈ children, e.name = company ∧
        (lookup (.name company) countries).1 = .ok (e.context .root)) ∧
    (list (.name denmark) countries).1 = .error (.nameNotFound "result code 32") ∧
    (lookup (.name denmark) countries).1 = .error (.nameNotFound "result code 32") := by
  have hserves := intact_countries.serves
  have hform := intact_countries.tree.ascending
  have hasks : ∀ n, (companies n).AsksForChildren n := fun _ => ⟨rfl, rfl, by cbv, rfl, rfl⟩
  constructor
  · have hplace : countries.isPlace sweden = true := by cbv
    have hname : (NameInput.name sweden).resolve = .ok sweden := rfl
    obtain ⟨names, children, -, hmem, hnames, -, -, hjoined, hread, hsearched, hlookup⟩ :=
      (children_agree hserves hform hname (hasks sweden) false ()).1 hplace
    let e : FoundEntry := ⟨company, .ofLists [("objectClass", ["organizationalUnit"])] []⟩
    have hentry : countries.entries.toList[2]? = some (e.name, e.attributes) := rfl
    have hclass : e.attributes.contains "objectClass" = true := by decide +kernel
    have he : e ∈ children := (hmem e).2 ⟨List.mem_of_getElem? hentry, by cbv, hclass⟩
    exact ⟨names, children, hnames, hjoined, hread, hsearched, e, he, rfl,
      hlookup e he (.name company) company rfl (beq_self company)⟩
  · have hplace : countries.isPlace denmark = false := by cbv
    have hname : (NameInput.name denmark).resolve = .ok denmark := rfl
    obtain ⟨hlist, -, -, hlookup⟩ :=
      (children_agree hserves hform hname (hasks denmark) false ()).2 hplace
    exact ⟨hlist, hlookup⟩

end InMemory

end DirectoryAccess
