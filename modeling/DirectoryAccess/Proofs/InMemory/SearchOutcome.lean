import DirectoryAccess.Proofs.InMemory.SearchCourse
import Mathlib.Data.ENat.Basic

/-!
# The exact outcome of a search

A search of a directory in memory is bounded by three numbers: how many entries there are to find, how many
the caller wants at most, and after how many the directory has been told to cut searches short. Where a
number is not set it is `⊤`. Which of them is the least decides how many entries the mapper is handed and how
the search ends (`search_exact`): with a referral if it is the last one, also where it equals another; else
at the limit if there are more entries than it allows; else with its final result.
-/

namespace DirectoryAccess

/-- How many entries a request wants at most; zero sets no limit. -/
def SearchRequest.most (r : SearchRequest) : ℕ∞ := if 0 < r.sizeLimit then r.sizeLimit.toNat else ⊤

namespace InMemory

variable {τ α : Type} {d : Directory} {request : SearchRequest} {ignorePartial : Bool}

/-- After how many entries searches are cut short. -/
def Failures.cut (f : Failures) : ℕ∞ := f.partialAfter?.elim ⊤ (↑)

namespace Directory

/-- `d.Lists request l`: the entries that the request asks for, each with the attributes that it selects,
in ascending order of their names. -/
structure Lists (d : Directory) (request : SearchRequest) (l : List FoundEntry) : Prop where
  /-- The names are ascending. -/
  ascending : l.Pairwise fun e e' => compare e.name e'.name = .lt
  /-- The entries are those in the scope of the request whose attributes satisfy its filter. -/
  mem_iff : ∀ e, e ∈ l ↔ ∃ attributes, (e.name, attributes) ∈ d.entries.toList ∧
    inScope request.scope request.base e.name = true ∧ Filter.accepts request.filter attributes = true ∧
    e.attributes = attributes.select request.attributes

/-- What a search finds is what the request asks for. -/
theorem lists_found (h : d.entries.Ascending) (request : SearchRequest) :
    d.Lists request (d.found request) where
  ascending := by
    have hnames : d.entries.toList.Pairwise fun e e' => compare e.1 e'.1 = .lt := List.pairwise_map.1 h
    exact List.pairwise_map.2 (hnames.filter _)
  mem_iff e := by
    rw [found, List.mem_map]
    constructor
    · rintro ⟨⟨name, attributes⟩, hmem, rfl⟩
      obtain ⟨hentry, hasked⟩ := List.mem_filter.1 hmem
      rw [Bool.and_eq_true] at hasked
      exact ⟨attributes, hentry, hasked.1, hasked.2, rfl⟩
    · rintro ⟨attributes, hentry, hscope, haccepts, hselected⟩
      refine ⟨(e.name, attributes), List.mem_filter.2 ⟨hentry, ?_⟩, ?_⟩
      · dsimp only
        rw [hscope, haccepts, Bool.and_true]
      · dsimp only
        rw [← hselected]

end Directory

/-! ### The three bounds -/

/-- A bound is at most a number exactly if it is what the number is capped to. -/
theorem eq_some_capped_iff (bound? : Option Nat) (m : Nat) :
    bound? = some (capped bound? m) ↔ bound?.elim (⊤ : ℕ∞) (↑) ≤ m := by
  cases bound? with
  | none => simp [capped]
  | some k =>
    rw [Option.elim_some, Nat.cast_le, capped, Option.elim_some, Option.some.injEq, eq_comm]
    exact inf_eq_right

theorem coe_capped (bound? : Option Nat) (m : Nat) :
    (capped bound? m : ℕ∞) = min (bound?.elim (⊤ : ℕ∞) (↑)) m := by
  cases bound? with
  | none => simp [capped]
  | some k =>
    rw [capped, Option.elim_some, Option.elim_some, min_comm]
    exact Nat.mono_cast.map_min

section

variable (d request)

/-- How many entries are handed over where the reading is not cut short. -/
theorem coe_capped_sizeLimit : (capped (d.results request).sizeLimit? (d.found request).length : ℕ∞) =
    min request.most (d.found request).length := by
  have hmost : (d.results request).sizeLimit?.elim (⊤ : ℕ∞) (↑) = request.most := by
    rw [Directory.results, SearchRequest.most]
    dsimp only
    split <;> rfl
  rw [coe_capped, hmost]

/-- How many entries are handed over. -/
theorem coe_reach : (d.reach request : ℕ∞) =
    min d.failures.cut (min request.most (d.found request).length) := by
  rw [Directory.reach, coe_capped, coe_capped_sizeLimit]
  rfl

theorem partialAfter?_eq_iff : d.failures.partialAfter? = some (d.reach request) ↔
    d.failures.cut ≤ min request.most (d.found request).length := by
  rw [← coe_capped_sizeLimit]
  exact eq_some_capped_iff _ _

theorem handed_eq : d.handed request = (d.found request).take
    (min d.failures.cut (min request.most (d.found request).length)).toNat := by
  rw [← coe_reach, ENat.toNat_natCast, Directory.handed]

end

/-- A reading that is not cut short leaves entries out exactly if there are more than the limit allows. -/
theorem reach_lt_iff (hcut : min request.most (d.found request).length < d.failures.cut) :
    d.reach request < (d.found request).length ↔ request.most < (d.found request).length := by
  have hreach : (d.reach request : ℕ∞) = min request.most (d.found request).length := by
    rw [coe_reach, min_eq_right hcut.le]
  rw [← ENat.natCast_lt_natCast, hreach, min_lt_iff]
  exact or_iff_left (lt_irrefl _)

theorem ending_of_cut (hcut : d.failures.cut ≤ min request.most (d.found request).length) :
    d.ending request = .error referralFault := by
  rw [Directory.ending, if_pos ((partialAfter?_eq_iff d request).2 hcut)]

theorem ending_of_most_lt (hcut : min request.most (d.found request).length < d.failures.cut)
    (hmost : request.most < (d.found request).length) : d.ending request = .error sizeLimitFault := by
  rw [Directory.ending, if_neg (mt (partialAfter?_eq_iff d request).1 hcut.not_ge),
    if_pos ((reach_lt_iff hcut).2 hmost)]

theorem ending_of_le_most (hcut : min request.most (d.found request).length < d.failures.cut)
    (hmost : (d.found request).length ≤ request.most) : d.ending request = .ok () := by
  rw [Directory.ending, if_neg (mt (partialAfter?_eq_iff d request).1 hcut.not_ge),
    if_neg (mt (reach_lt_iff hcut).1 hmost.not_gt)]

/-- A reading that is neither cut short nor limited leaves no entry out. -/
theorem handed_of_le_most (hcut : min request.most (d.found request).length < d.failures.cut)
    (hmost : (d.found request).length ≤ request.most) : d.handed request = d.found request :=
  List.take_of_length_le (Nat.le_of_not_lt (mt (reach_lt_iff hcut).1 hmost.not_gt))

/-! ### The outcome -/

theorem classify_sizeLimitFault : sizeLimitFault.classify = .limitExceeded "result code 4" := by
  decide +kernel

theorem verdict_referral (ignorePartial : Bool) (finished : Except Fault Unit) (value : α) :
    verdict ignorePartial (firstFault (.error referralFault) finished) (.ok ()) value =
      if ignorePartial then .ok value else .error (.partialResult "result code 10") := by
  rw [verdict, firstFault, Except.mapError, classify_referralFault]
  cases ignorePartial <;> rfl

theorem verdict_sizeLimit (ignorePartial : Bool) (finished : Except Fault Unit) (value : α) :
    verdict ignorePartial (firstFault (.error sizeLimitFault) finished) (.ok ()) value =
      .error (.limitExceeded "result code 4") := by
  rw [verdict, firstFault, Except.mapError, classify_sizeLimitFault]
  rfl

theorem verdict_finalResult (ignorePartial : Bool) (d : Directory) (value : α) :
    verdict ignorePartial (firstFault (.ok ()) d.finalResult) (.ok ()) value =
      if d.failures.referralAtEnd && !ignorePartial then .error (.partialResult "result code 10")
      else .ok value := by
  rw [Directory.finalResult]
  cases d.failures.referralAtEnd with
  | false => rfl
  | true =>
    refine (verdict_referral ignorePartial (.ok ()) value).trans ?_
    cases ignorePartial <;> rfl

/-- A search of a directory that answers, with a visitor that refuses none of the entries. -/
theorem searchVisiting_of_values {query : SearchQuery} {wholeEntries : Bool}
    {visit : EntryContext → Step τ α} {values : List α} {t t' : τ} (hacquire : d.failures.acquire = false)
    (hanswers : d.Answers (.ofQuery query wholeEntries))
    (hvisit : visitEach visit (d.contexts (.ofQuery query wholeEntries)) t = ⟨values, .ok (), t'⟩) :
    searchVisiting ignorePartial query wholeEntries visit SearchHooks.none ⟨d, t⟩ =
      let request := SearchRequest.ofQuery query wholeEntries
      (verdict ignorePartial (firstFault (d.ending request) d.finalResult) (.ok ()) values,
        ⟨d.logged [.acquire .readOnly, .search request, .searchFinished, .release .readOnly], t'⟩) := by
  have hgathers : d.gathers (.ofQuery query wholeEntries) visit t =
      (⟨values, d.ending (.ofQuery query wholeEntries), d.finalResult⟩, t') := by
    rw [Directory.gathers_of_answers hanswers, hvisit]
    rfl
  rw [searchVisiting_none hacquire hanswers.sense]
  dsimp only
  rw [hgathers, Directory.searchEvents_of_answers hanswers]
  rfl

/-- A search for one entry is a search whose values are counted. -/
theorem searchSingle_eq {σ : Type} [DirectoryServer σ] (ignorePartial : Bool) (query : SearchQuery)
    (mapper : Mapper τ α) (w : World σ τ) :
    searchSingle ignorePartial query mapper w =
      let run := searchMapping ignorePartial query mapper SearchHooks.none w
      (match run.1 with
        | .error fault => .error fault
        | .ok [] => .error .emptyResult
        | .ok [value] => .ok value
        | .ok values => .error (.incorrectResultCount 1 values.length), run.2) := by
  rw [searchSingle]
  rcases searchMapping ignorePartial query mapper SearchHooks.none w with
    ⟨fault | _ | ⟨value, _ | ⟨value', values⟩⟩, w'⟩ <;> rfl

/-- **The exact outcome of a search**, where the directory serves it and the mapper never fails: which
entries the mapper is handed, in which order, and how the search ends, by the three bounds. A search for
one entry hands the same entries to the mapper, and counts what it made of them if that search succeeds. -/
theorem search_exact {query : SearchQuery} {mapper : Mapper τ α}
    (hsearch : d.failures.search? = none) (hacquire : d.failures.acquire = false)
    (hquery : query.Sensible) (hplace : d.isPlace query.base = true)
    (hmapper : ∀ context t, ∃ value t', mapper.map context t = (.ok value, t')) (ignorePartial : Bool)
    (t : τ) :
    let wholeEntries := query.wantsWholeEntries mapper.mapsContexts
    let request := SearchRequest.ofQuery query wholeEntries
    let all := d.found request
    let total : ℕ∞ := all.length
    let most := request.most
    let cut := d.failures.cut
    let shown := (all.take (min cut (min most total)).toNat).map (FoundEntry.context d.base)
    let visited := visitEach mapper.map shown t
    let run := searchMapping ignorePartial query mapper SearchHooks.none ⟨d, t⟩
    (d.entries.Ascending → d.Lists request all) ∧
    visited.values.length = shown.length ∧
    run.2 = ⟨d.logged [.acquire .readOnly, .search request, .searchFinished, .release .readOnly],
      visited.caller⟩ ∧
    (searchVisiting ignorePartial query wholeEntries (noting mapper.map) SearchHooks.none
      ⟨d, (t, [])⟩).2.caller = (visited.caller, shown) ∧
    (cut ≤ min most total → run.1 =
      if ignorePartial then .ok visited.values else .error (.partialResult "result code 10")) ∧
    (min most total < cut → most < total → run.1 = .error (.limitExceeded "result code 4")) ∧
    (min most total < cut → total ≤ most → shown = all.map (FoundEntry.context d.base) ∧ run.1 =
      if d.failures.referralAtEnd && !ignorePartial then .error (.partialResult "result code 10")
      else .ok visited.values) ∧
    searchSingle ignorePartial query mapper ⟨d, t⟩ =
      (match run.1 with
        | .error fault => .error fault
        | .ok [] => .error .emptyResult
        | .ok [value] => .ok value
        | .ok values => .error (.incorrectResultCount 1 values.length), run.2) := by
  intro wholeEntries request all total most cut shown visited run
  have hanswers : d.Answers request :=
    ⟨hsearch, hplace, cannotAnswer_of_sensible (sensible_ofQuery hquery wholeEntries) d⟩
  have hshown : d.contexts request = shown := by
    rw [Directory.contexts, handed_eq]
  have haccepted : visited.outcome = .ok () := visitEach_of_total hmapper shown t
  have hvisited : visitEach mapper.map (d.contexts request) t =
      ⟨visited.values, .ok (), visited.caller⟩ := by
    rw [hshown, ← haccepted]
  have hnoted : visitEach (noting mapper.map) (d.contexts request) (t, []) =
      ⟨visited.values, .ok (), visited.caller, shown⟩ := by
    rw [hshown, visitEach_noting_of_ok haccepted, List.nil_append]
  have hrun : run = _ := searchVisiting_of_values hacquire hanswers hvisited
  have hresult : run.1 = verdict ignorePartial (firstFault (d.ending request) d.finalResult) (.ok ())
      visited.values := congrArg Prod.fst hrun
  have hrun' : searchVisiting ignorePartial query wholeEntries (noting mapper.map) SearchHooks.none
      ⟨d, (t, [])⟩ = _ := searchVisiting_of_values hacquire hanswers hnoted
  refine ⟨fun h => Directory.lists_found h request, length_values_of_ok haccepted, congrArg Prod.snd hrun,
    congrArg (World.caller ∘ Prod.snd) hrun', fun hcut => ?_, fun hcut hmost => ?_,
    fun hcut hmost => ⟨?_, ?_⟩, searchSingle_eq ignorePartial query mapper ⟨d, t⟩⟩
  · rw [hresult, ending_of_cut hcut]
    exact verdict_referral ignorePartial d.finalResult visited.values
  · rw [hresult, ending_of_most_lt hcut hmost]
    exact verdict_sizeLimit ignorePartial d.finalResult visited.values
  · rw [← hshown, Directory.contexts, handed_of_le_most hcut hmost]
  · rw [hresult, ending_of_le_most hcut hmost]
    exact verdict_finalResult ignorePartial d visited.values

/-- A mapper that counts the entries. -/
def counting : Mapper Nat Nat := .ofAttributes fun _ count => (.ok count, count + 1)

/-- Where one of two entries is wanted, it is mapped, and the search fails at the limit. -/
theorem search_exact_bergs :
    let query := { bergs with sizeLimit := 1 }
    searchMapping false query counting SearchHooks.none ⟨namesakes, 0⟩ =
      (.error (.limitExceeded "result code 4"), ⟨namesakes.logged [.acquire .readOnly,
        .search (.ofQuery query false), .searchFinished, .release .readOnly], 1⟩) := by
  intro query
  let request := SearchRequest.ofQuery query (query.wantsWholeEntries counting.mapsContexts)
  have hsensible : query.Sensible := ⟨by decide, sensible_bergs.escapes⟩
  have hcounting : ∀ context t, ∃ value t', counting.map context t = (.ok value, t') :=
    fun _ t => ⟨t, t + 1, rfl⟩
  have hless : request.most < ((namesakes.found request).length : ℕ∞) :=
    ENat.natCast_lt_natCast.2 (by cbv)
  have hshown : (min namesakes.failures.cut
      (min request.most ((namesakes.found request).length : ℕ∞))).toNat = 1 := by
    rw [min_eq_left hless.le]
    rfl
  obtain ⟨-, -, hworld, -, -, hlimited, -⟩ :=
    search_exact (d := namesakes) rfl rfl hsensible rfl hcounting false 0
  rw [hshown] at hworld
  exact Prod.ext (hlimited ((min_le_right _ _).trans_lt (ENat.natCast_lt_top _)) hless)
    (hworld.trans (by cbv))

end InMemory

end DirectoryAccess
