import DirectoryAccess.Proofs.InMemory.Authentication
import DirectoryAccess.Proofs.InMemory.Trace
import DirectoryAccess.Proofs.Operation.Classified

/-!
# The course of a search

A search with the hooks of its caller goes through up to five steps that can fail: the hook before it, the
start, the reading of the entries with the caller's own function among it, the final result, and the hook
after it. `searchVisiting_of_before` says for any hooks what comes of these steps together. Where the hooks
make no requests of their own the record of the directory tells the whole course (`search_hooks`).

A fault of the caller's own function ends the reading, but the policy on partial results is applied to it
as to the faults of the directory (`search_of_refusal`).
-/

namespace DirectoryAccess

variable {σ τ α β : Type} [DirectoryServer σ]

/-- The context of an entry that was found. -/
def FoundEntry.context (base : DistinguishedName) (e : FoundEntry) : EntryContext :=
  .existing e.name base e.attributes

/-- `HandsOver ignorePartial query hooks wholeEntries visit value op`: the operation `op` searches, hands
each entry to `visit`, and returns `value` of what `visit` made of them. -/
inductive HandsOver (ignorePartial : Bool) (query : SearchQuery) (hooks : SearchHooks σ τ) :
    {α β : Type} → Bool → (EntryContext → Step τ α) → (List α → β) → Step (World σ τ) β → Prop where
  /-- A value is made of each entry. -/
  | mapping {α : Type} (mapper : Mapper τ α) :
      HandsOver ignorePartial query hooks (query.wantsWholeEntries mapper.mapsContexts) mapper.map id
        (searchMapping ignorePartial query mapper hooks)
  /-- Each entry is handed to the caller. -/
  | handling (handle : EntryContext → Step τ Unit) :
      HandsOver ignorePartial query hooks (query.wantsWholeEntries false) handle (fun _ => ())
        (searchHandling ignorePartial query handle hooks)

variable {ignorePartial wholeEntries : Bool} {query : SearchQuery} {hooks : SearchHooks σ τ}
  {visit : EntryContext → Step τ α} {value : List α → β} {op : Step (World σ τ) β}

theorem HandsOver.eq (h : HandsOver ignorePartial query hooks wholeEntries visit value op)
    (w : World σ τ) :
    op w =
      let (outcome, w') := searchVisiting ignorePartial query wholeEntries visit hooks w
      (outcome.map value, w') := by
  cases h with
  | mapping mapper =>
    rw [searchMapping]
    rcases searchVisiting ignorePartial query (query.wantsWholeEntries mapper.mapsContexts) mapper.map
      hooks w with ⟨_ | _, _⟩ <;> rfl
  | handling handle => rfl

/-- The same hooks for a caller that also keeps notes, which they leave alone. -/
def SearchHooks.aside {ν : Type} (hooks : SearchHooks σ τ) : SearchHooks σ (τ × ν) where
  before c w :=
    let (outcome, w') := hooks.before c ⟨w.server, w.caller.1⟩
    (outcome, ⟨w'.server, w'.caller, w.caller.2⟩)
  after c w :=
    let (outcome, w') := hooks.after c ⟨w.server, w.caller.1⟩
    (outcome, ⟨w'.server, w'.caller, w.caller.2⟩)

section

variable {ν : Type} {c : Connection σ} {s : σ} {t : τ} {w : World σ τ} {outcome : Except Fault Unit}
  {notes : ν}

theorem SearchHooks.before_aside (h : hooks.before c ⟨s, t⟩ = (outcome, w)) :
    hooks.aside.before c ⟨s, t, notes⟩ = (outcome, ⟨w.server, w.caller, notes⟩) := by
  simp only [aside, h]

theorem SearchHooks.after_aside (h : hooks.after c ⟨s, t⟩ = (outcome, w)) :
    hooks.aside.after c ⟨s, t, notes⟩ = (outcome, ⟨w.server, w.caller, notes⟩) := by
  simp only [aside, h]

end

namespace InMemory

open DirectoryServer

variable {d d₁ : Directory} {request : SearchRequest} {hooks : SearchHooks Directory τ}
  {op : Step (World Directory τ) β} {t t₁ t' : τ}

namespace Directory

/-- The contexts that a search hands to the visitor, as long as the visitor refuses none. -/
def contexts (d : Directory) (request : SearchRequest) : List EntryContext :=
  (d.handed request).map (FoundEntry.context d.base)

/-- What comes of a search that the directory can make sense of, and the caller afterwards: nothing if the
search is refused, and else what the visitor makes of the entries. The search has failed if the visitor
did, or the reading, or with its final result. -/
def gathers (d : Directory) (request : SearchRequest) (visit : EntryContext → Step τ α) (t : τ) :
    Gathered α × τ :=
  match d.refusal? request with
  | some fault => ({ walked := .error fault }, t)
  | none =>
    let visited := visitEach visit (d.contexts request) t
    (⟨visited.values, firstFault visited.outcome (d.ending request), d.finalResult⟩, visited.caller)

/-- What the directory records of a search. One that is refused has nothing to finish. -/
def searchEvents (d : Directory) (request : SearchRequest) : List Event :=
  .search request :: if (d.refusal? request).isSome then [] else [.searchFinished]

@[simp] theorem gathers_logged (events : List Event) (visit : EntryContext → Step τ α) :
    (d.logged events).gathers request visit = d.gathers request visit := rfl

@[simp] theorem searchEvents_logged (events : List Event) :
    (d.logged events).searchEvents request = d.searchEvents request := rfl

theorem gathers_of_answers (h : d.Answers request) (visit : EntryContext → Step τ α) (t : τ) :
    d.gathers request visit t =
      let visited := visitEach visit (d.contexts request) t
      (⟨visited.values, firstFault visited.outcome (d.ending request), d.finalResult⟩,
        visited.caller) := by
  rw [gathers, (answers_iff.1 h).1]

theorem searchEvents_of_answers (h : d.Answers request) :
    d.searchEvents request = [.search request, .searchFinished] := by
  rw [searchEvents, (answers_iff.1 h).1]
  rfl

end Directory

/-! ### The search -/

/-- What comes of a search that the directory can make sense of, whatever the visitor does. -/
theorem searchEach_gathers (hsense : d.cannotAnswer request = false) (session : Session Directory)
    (visit : EntryContext → Step τ α) (t : τ) :
    searchEach session request (fun e => visit (.existing e.name d.base e.attributes)) ⟨d, t⟩ =
      let (gathered, t') := d.gathers request visit t
      (gathered, ⟨d.logged (d.searchEvents request), t'⟩) := by
  cases hrefusal : d.refusal? request with
  | some fault =>
    rw [searchEach, server_search_eq, search_of_refusal? hrefusal hsense, Directory.gathers,
      Directory.searchEvents, hrefusal]
    rfl
  | none =>
    have hanswers := Directory.answers_iff.2 ⟨hrefusal, hsense⟩
    rw [searchEach_visit hanswers, Directory.gathers_of_answers hanswers,
      Directory.searchEvents_of_answers hanswers, Directory.contexts,
      ← visitEach_map visit (FoundEntry.context d.base)]
    rfl

/-! ### The search between its hooks -/

/-- Where the hook before the search fails, nothing else is done. -/
theorem searchVisiting_of_before_error {fault : Fault} (hacquire : d.failures.acquire = false)
    (hbefore : hooks.before readConnection ⟨d.logged [.acquire .readOnly], t⟩ =
      (.error fault, ⟨d₁, t₁⟩)) :
    searchVisiting ignorePartial query wholeEntries visit hooks ⟨d, t⟩ =
      (.error fault.classify, ⟨d₁.logged [.release .readOnly], t₁⟩) := by
  rw [searchVisiting_of_acquire hacquire, searchWork, hbefore]
  rfl

/-- What a caller is told, which is not raw: the fault of the search unless it is accepted, or else the
fault of the hook after the search, or else the value. -/
def verdict (ignorePartial : Bool) (search after : Except Fault Unit) (value : α) : Except Fault α :=
  firstFault (acceptPartial ignorePartial (search.mapError Fault.classify))
    ((after.mapError Fault.classify).map fun _ => value)

/-- Classifying the outcome of the work as a whole makes no difference to the outcome of the search, which
is classified already. -/
theorem mapError_classify_work (ignorePartial : Bool) (search after : Except Fault Unit) (a : α) :
    (firstFault (acceptPartial ignorePartial (search.mapError Fault.classify))
      (after.map fun _ => a)).mapError Fault.classify = verdict ignorePartial search after a := by
  rw [verdict]
  rcases hsearch : acceptPartial ignorePartial (search.mapError Fault.classify) with fault | _
  · obtain ⟨f, -, -, rfl⟩ := acceptPartial_eq_error_iff.1 hsearch
    exact congrArg Except.error (classify_classify f)
  · cases after <;> rfl

theorem map_verdict (search after : Except Fault Unit) (value : α → β) (a : α) :
    (verdict ignorePartial search after a).map value =
      verdict ignorePartial search after (value a) := by
  rw [verdict, verdict]
  cases acceptPartial ignorePartial (search.mapError Fault.classify) with
  | error fault => rfl
  | ok _ => cases after <;> rfl

/-- Where the hook before the search succeeds, the search follows, and the hook after it runs whatever came
of the search. -/
theorem searchVisiting_of_before (hacquire : d.failures.acquire = false)
    (hbefore : hooks.before readConnection ⟨d.logged [.acquire .readOnly], t⟩ = (.ok (), ⟨d₁, t₁⟩))
    (hsense : d₁.cannotAnswer (.ofQuery query wholeEntries) = false) :
    searchVisiting ignorePartial query wholeEntries visit hooks ⟨d, t⟩ =
      let request := SearchRequest.ofQuery query wholeEntries
      let (gathered, t₂) := d₁.gathers request visit t₁
      let (after, w) := hooks.after readConnection ⟨d₁.logged (d₁.searchEvents request), t₂⟩
      (verdict ignorePartial gathered.outcome after gathered.values,
        ⟨w.server.logged [.release .readOnly], w.caller⟩) := by
  have hbase : base (⟨d₁, t₁⟩ : World Directory τ).server = d₁.base := rfl
  rw [searchVisiting_of_acquire hacquire, searchWork, hbefore]
  dsimp only
  rw [searchOn, hbase, searchEach_gathers hsense]
  dsimp only
  rw [mapError_classify_work]

/-- A search without hooks. -/
theorem searchVisiting_none (hacquire : d.failures.acquire = false)
    (hsense : d.cannotAnswer (.ofQuery query wholeEntries) = false) :
    searchVisiting ignorePartial query wholeEntries visit SearchHooks.none ⟨d, t⟩ =
      let request := SearchRequest.ofQuery query wholeEntries
      let (gathered, t') := d.gathers request visit t
      (verdict ignorePartial gathered.outcome (.ok ()) gathered.values,
        ⟨d.logged (.acquire .readOnly :: d.searchEvents request ++ [.release .readOnly]), t'⟩) := by
  have hsense' : (d.logged [.acquire .readOnly]).cannotAnswer (.ofQuery query wholeEntries) = false :=
    hsense
  rw [searchVisiting_of_before hacquire rfl hsense']
  dsimp only [SearchHooks.none]
  simp only [Directory.gathers_logged, Directory.searchEvents_logged, Directory.logged_logged]
  rfl

/-! ### Hooks without requests -/

/-- `LeavesNotes hook notes`: the hook makes no request. All that the directory sees of it is that the caller
leaves these notes. -/
def LeavesNotes (hook : Connection Directory → Step (World Directory τ) Unit) (notes : List String) :
    Prop :=
  ∀ c w, (hook c w).2.server = w.server.logged (notes.map .note)

/-- **The course of a search whose hooks make no requests.** The hook before the search runs once, after the
session has been opened and before a search is started; if it fails nothing else is done. Otherwise the
hook after the search runs once, after a search that was started has been finished and before the session
is closed, whatever came of the search. The fault of the search counts before that of the hook after it,
and in the search the fault of its reading before that of its final result. -/
theorem search_hooks (hop : HandsOver ignorePartial query hooks wholeEntries visit value op)
    (hacquire : d.failures.acquire = false) (hquery : query.Sensible) {notes notes' : List String}
    (hbefore : LeavesNotes hooks.before notes) (hafter : LeavesNotes hooks.after notes') :
    let request := SearchRequest.ofQuery query wholeEntries
    let opening := .acquire .readOnly :: notes.map .note
    let closing := [.release .readOnly]
    match hooks.before readConnection ⟨d.logged [.acquire .readOnly], t⟩ with
    | (.error fault, w₁) =>
      op ⟨d, t⟩ = (.error fault.classify, ⟨d.logged (opening ++ closing), w₁.caller⟩)
    | (.ok (), w₁) =>
      let (gathered, t₂) := d.gathers request visit w₁.caller
      let events := opening ++ d.searchEvents request
      let (after, w₃) := hooks.after readConnection ⟨d.logged events, t₂⟩
      op ⟨d, t⟩ =
        (verdict ignorePartial (firstFault gathered.walked gathered.finished) after
            (value gathered.values),
          ⟨d.logged (events ++ notes'.map .note ++ closing), w₃.caller⟩) := by
  intro request opening closing
  have hserver := hbefore readConnection ⟨d.logged [.acquire .readOnly], t⟩
  rcases hrun : hooks.before readConnection ⟨d.logged [.acquire .readOnly], t⟩ with ⟨fault | _, d₁, t₁⟩
  · rw [hrun, Directory.logged_logged] at hserver
    obtain rfl : d₁ = d.logged opening := hserver
    rw [hop.eq, searchVisiting_of_before_error hacquire hrun, Directory.logged_logged]
    rfl
  · rw [hrun, Directory.logged_logged] at hserver
    obtain rfl : d₁ = d.logged opening := hserver
    have hsense : (d.logged opening).cannotAnswer request = false :=
      cannotAnswer_of_sensible (sensible_ofQuery hquery wholeEntries) d
    dsimp only
    rw [hop.eq, searchVisiting_of_before hacquire hrun hsense]
    simp only [Directory.gathers_logged, Directory.searchEvents_logged, Directory.logged_logged]
    have hserver' := hafter readConnection
      ⟨d.logged (opening ++ d.searchEvents request), (d.gathers request visit t₁).2⟩
    rw [Directory.logged_logged] at hserver'
    rw [hserver', Directory.logged_logged, map_verdict]
    rfl

/-- The search for all who are called Berg. -/
def bergs : SearchQuery := { base := .root, filter := called "sn" "Berg" }

theorem sensible_bergs : bergs.Sensible :=
  ⟨Int.le_refl 0, Filter.hexEscaped_of_not_mem (by decide +kernel)⟩

theorem answers_bergs : namesakes.Answers (.ofQuery bergs false) := ⟨rfl, rfl, by cbv⟩

theorem exists_contexts_bergs : ∃ first second,
    namesakes.contexts (.ofQuery bergs false) = [first, second] :=
  List.length_eq_two.1 (by cbv)

/-- A mapper that counts the entries, of which it refuses the one after the first `n`. -/
def refusingAfter (n : Nat) (fault : Fault) : Mapper Nat Nat :=
  .ofAttributes fun _ count => (if count = n then .error fault else .ok count, count + 1)

/-- Hooks with these outcomes, which leave a note each. -/
def announcing (before after : Except Fault Unit) : SearchHooks Directory Nat where
  before _ w := (before, ⟨w.server.logged [.note "before"], w.caller⟩)
  after _ w := (after, ⟨w.server.logged [.note "after"], w.caller⟩)

/-- A search that delivers two entries fails with the hook after it. -/
theorem search_hooks_bergs :
    searchMapping false bergs (refusingAfter 2 .emptyResult)
        (announcing (.ok ()) (.error (.system "gone"))) ⟨namesakes, 0⟩ =
      (.error (.communication "gone"), ⟨namesakes.logged [.acquire .readOnly, .note "before",
        .search (.ofQuery bergs false), .searchFinished, .note "after", .release .readOnly], 2⟩) := by
  let mapper := refusingAfter 2 .emptyResult
  let hooks := announcing (.ok ()) (.error (.system "gone"))
  have hop : HandsOver false bergs hooks false mapper.map id (searchMapping false bergs mapper hooks) :=
    .mapping mapper
  have hbefore : LeavesNotes hooks.before ["before"] := fun _ _ => rfl
  have hafter : LeavesNotes hooks.after ["after"] := fun _ _ => rfl
  have hrun := search_hooks (d := namesakes) (t := 0) hop rfl sensible_bergs hbefore hafter
  exact hrun.trans (by cbv)

/-! ### Visitors that fail -/

/-- The policy on partial results asks for the kind of a fault, not for where it arose. -/
theorem verdict_of_accepted {fault : Fault} (h : Accepted ignorePartial fault)
    (after : Except Fault Unit) (a : α) :
    verdict ignorePartial (.error fault) after a = (after.mapError Fault.classify).map fun _ => a := by
  obtain ⟨hignore, text, htext⟩ := h
  have hsearch : acceptPartial ignorePartial ((Except.error fault).mapError Fault.classify) = .ok () := by
    rw [Except.mapError, htext, hignore]
    rfl
  rw [verdict, hsearch]
  rfl

theorem verdict_of_not_accepted {fault : Fault} (h : ¬Accepted ignorePartial fault)
    (after : Except Fault Unit) (a : α) :
    verdict ignorePartial (.error fault) after a = .error fault.classify := by
  have hsearch : acceptPartial ignorePartial ((Except.error fault).mapError Fault.classify) =
      .error fault.classify := acceptPartial_eq_error_iff.2 ⟨fault, rfl, h, rfl⟩
  rw [verdict, hsearch]
  rfl

section

variable {context : EntryContext} {front rest : List EntryContext} {fault : Fault}
  (hacquire : d.failures.acquire = false)
  (hbefore : hooks.before readConnection ⟨d.logged [.acquire .readOnly], t⟩ = (.ok (), ⟨d₁, t₁⟩))
  (hanswers : d₁.Answers (.ofQuery query wholeEntries))
  (hcontexts : d₁.contexts (.ofQuery query wholeEntries) = front ++ context :: rest)
  (hfront : (visitEach visit front t₁).outcome = .ok ())
  (hrefusal : visit context (visitEach visit front t₁).caller = (.error fault, t'))

include hacquire hbefore hanswers hcontexts hfront hrefusal

/-- The run of a search that ends at an entry that the visitor refuses. -/
theorem searchVisiting_of_refusal (ignorePartial : Bool) :
    searchVisiting ignorePartial query wholeEntries visit hooks ⟨d, t⟩ =
      let (after, w) := hooks.after readConnection
        ⟨d₁.logged [.search (.ofQuery query wholeEntries), .searchFinished], t'⟩
      (verdict ignorePartial (.error fault) after (visitEach visit front t₁).values,
        ⟨w.server.logged [.release .readOnly], w.caller⟩) := by
  rw [searchVisiting_of_before hacquire hbefore hanswers.sense]
  dsimp only
  rw [Directory.gathers_of_answers hanswers, Directory.searchEvents_of_answers hanswers, hcontexts,
    visitEach_append_of_refusal hfront hrefusal]
  rfl

/-- The entries that were handed over are those up to the one that the visitor refuses. -/
theorem notes_of_refusal (ignorePartial : Bool) :
    (searchVisiting ignorePartial query wholeEntries (noting visit) hooks.aside
      ⟨d, (t, [])⟩).2.caller =
      ((hooks.after readConnection
        ⟨d₁.logged [.search (.ofQuery query wholeEntries), .searchFinished], t'⟩).2.caller,
        front ++ [context]) := by
  have hbefore' : hooks.aside.before readConnection ⟨d.logged [.acquire .readOnly], (t, [])⟩ =
      (.ok (), ⟨d₁, (t₁, ([] : List EntryContext))⟩) := SearchHooks.before_aside hbefore
  have hnoted : visitEach (noting visit) front (t₁, []) =
      ⟨(visitEach visit front t₁).values, .ok (), (visitEach visit front t₁).caller, front⟩ := by
    rw [visitEach_noting_of_ok hfront, List.nil_append]
  have hrefusal' : noting visit context (visitEach (noting visit) front (t₁, [])).caller =
      (.error fault, (t', front ++ [context])) := by
    rw [hnoted, noting, hrefusal]
  rw [searchVisiting_of_refusal hacquire hbefore' hanswers hcontexts (congrArg Visited.outcome hnoted)
    hrefusal', SearchHooks.after_aside rfl]

/-- **The end of a search at an entry that the caller refuses**, with a mapper or a handler that had
accepted the entries before it. The search is finished once, no other entry is handed over, and the caller
is told the fault, unless it accepts partial results and the fault is of this kind: then the search
counts as a success with what was made of the entries before. -/
theorem search_of_refusal (hop : HandsOver ignorePartial query hooks wholeEntries visit value op) :
    let request := SearchRequest.ofQuery query wholeEntries
    let (after, w) := hooks.after readConnection ⟨d₁.logged [.search request, .searchFinished], t'⟩
    (¬Accepted ignorePartial fault → (op ⟨d, t⟩).1 = .error fault.classify) ∧
    (Accepted ignorePartial fault → (op ⟨d, t⟩).1 =
      (after.mapError Fault.classify).map fun _ => value (visitEach visit front t₁).values) ∧
    (op ⟨d, t⟩).2 = ⟨w.server.logged [.release .readOnly], w.caller⟩ ∧
    (searchVisiting ignorePartial query wholeEntries (noting visit) hooks.aside
      ⟨d, (t, [])⟩).2.caller = (w.caller, front ++ [context]) := by
  intro request
  have hrun := searchVisiting_of_refusal hacquire hbefore hanswers hcontexts hfront hrefusal ignorePartial
  have hnotes := notes_of_refusal hacquire hbefore hanswers hcontexts hfront hrefusal ignorePartial
  rcases hafter : hooks.after readConnection ⟨d₁.logged [.search request, .searchFinished], t'⟩
    with ⟨after, w⟩
  rw [hafter] at hrun hnotes
  have hop' : op ⟨d, t⟩ = (verdict ignorePartial (.error fault) after
      (value (visitEach visit front t₁).values), ⟨w.server.logged [.release .readOnly], w.caller⟩) := by
    rw [hop.eq, hrun]
    dsimp only
    rw [map_verdict]
  refine ⟨fun h => ?_, fun h => ?_, congrArg Prod.snd hop', hnotes⟩
  · rw [hop', verdict_of_not_accepted h]
  · rw [hop', verdict_of_accepted h]

end

/-- One of two entries is mapped, and the other one is refused. -/
theorem search_of_refusal_second :
    (searchMapping true bergs (refusingAfter 1 (.system "boom")) SearchHooks.none ⟨namesakes, 0⟩).1 =
        .error (.communication "boom") ∧
      (searchVisiting true bergs false (noting (refusingAfter 1 (.system "boom")).map)
        SearchHooks.none.aside ⟨namesakes, (0, [])⟩).2.caller =
        (2, namesakes.contexts (.ofQuery bergs false)) := by
  let mapper := refusingAfter 1 (.system "boom")
  let hooks : SearchHooks Directory Nat := SearchHooks.none
  have hop : HandsOver true bergs hooks false mapper.map id (searchMapping true bergs mapper hooks) :=
    .mapping mapper
  obtain ⟨first, second, hcontexts⟩ := exists_contexts_bergs
  have hsplit : namesakes.contexts (.ofQuery bergs false) = [first] ++ [second] := hcontexts
  have hfront : (visitEach mapper.map [first] 0).outcome = .ok () := rfl
  have hrefusal : mapper.map second (visitEach mapper.map [first] 0).caller =
      (.error (.system "boom"), 2) := rfl
  have hbefore : hooks.before readConnection ⟨namesakes.logged [.acquire .readOnly], 0⟩ =
      (.ok (), ⟨namesakes.logged [.acquire .readOnly], 0⟩) := rfl
  have hend := search_of_refusal rfl hbefore (answers_bergs.logged _) hsplit hfront hrefusal hop
  refine ⟨hend.1 ?_, hcontexts ▸ hend.2.2.2⟩
  rintro ⟨-, text, htext⟩
  cases htext

/-- Where the caller accepts partial results, a search succeeds although the mapper refused the first
entry, with a fault of this kind. -/
theorem search_ok_of_refusal :
    (∃ context rest, namesakes.contexts (.ofQuery bergs false) = context :: rest ∧
      ((refusingAfter 0 (.partialResult "mine")).map context 0).1 = .error (.partialResult "mine")) ∧
    (searchMapping true bergs (refusingAfter 0 (.partialResult "mine")) SearchHooks.none
      ⟨namesakes, 0⟩).1 = .ok [] := by
  have hrun : searchVisiting true bergs false (refusingAfter 0 (.partialResult "mine")).map
      SearchHooks.none ⟨namesakes, 0⟩ = _ :=
    searchVisiting_none rfl answers_bergs.sense
  obtain ⟨first, second, hcontexts⟩ := exists_contexts_bergs
  exact ⟨⟨first, [second], hcontexts, rfl⟩, (congrArg Prod.fst hrun).trans (by cbv)⟩

end InMemory

end DirectoryAccess
