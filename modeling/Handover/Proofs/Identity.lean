import Handover.Proofs.Translation
import Mathlib.Data.List.Induction

/-! # The identity of a translator

What a translator knows after a history of updates can be told without running it.  Its virtual worker
is the one that the first clean update naming its process gives it, and that never changes; the
strategy is told it once.  Every clean update before is accepted, and from then on just those clean
updates whose first row for the process repeats it.  The map in use is that of the last accepted
update alone (`identity_of_history`).

An update is thus read in two ways.  Which virtual worker the process is follows from the *first* row of
the process, and the map keeps the *last* row of each virtual worker.  Where rows repeat, the two
readings come apart (`own_rows_disagree`); where the last accepted update has none that do, a ready
translator finds its own process under its own virtual worker and nowhere else (`worker?_eq_some_iff`).
-/

namespace Handover

namespace MappingUpdate

/-! ## Clean updates -/

/-- No row of the update uses a reserved value. -/
def Clean (update : MappingUpdate) : Prop :=
  ∀ entry ∈ update.entries, entry.virtualWorker ≠ .unassigned ∧ entry.worker ≠ .nobody

/-- Some row of the update is about the process. -/
def Names (update : MappingUpdate) (worker : WorkerName) : Prop :=
  ∃ entry ∈ update.entries, entry.worker = worker

/-- The rows of the process and the rows of any virtual worker it is given are the same rows. -/
def Unambiguous (update : MappingUpdate) (worker : WorkerName) : Prop :=
  ∀ own ∈ update.entries, own.worker = worker →
    ∀ entry ∈ update.entries, entry.worker = worker ↔ entry.virtualWorker = own.virtualWorker

instance (update : MappingUpdate) : Decidable update.Clean :=
  inferInstanceAs (Decidable (∀ _ ∈ _, _))

instance (update : MappingUpdate) (worker : WorkerName) : Decidable (update.Names worker) :=
  inferInstanceAs (Decidable (∃ _ ∈ _, _))

instance (update : MappingUpdate) (worker : WorkerName) : Decidable (update.Unambiguous worker) :=
  inferInstanceAs (Decidable (∀ _ ∈ _, _))

variable {update : MappingUpdate} {worker : WorkerName}

theorem clean_iff_find? : update.Clean ↔ update.entries.find? (!·.isValid) = none := by
  simp [Clean, List.find?_eq_none, MappingEntry.isValid, VirtualWorkerId.isValid,
    WorkerName.isValid]

theorem isSome_virtualWorkerOf : (update.virtualWorkerOf worker).isSome ↔ update.Names worker := by
  simp [virtualWorkerOf, Names]

theorem virtualWorkerOf_of_not_names (nowhere : ¬ update.Names worker) :
    update.virtualWorkerOf worker = none := by
  rw [← Option.not_isSome_iff_eq_none, isSome_virtualWorkerOf]
  exact nowhere

theorem Clean.isValid_of_virtualWorkerOf (clean : update.Clean) {id : VirtualWorkerId}
    (given : update.virtualWorkerOf worker = some id) : id.isValid := by
  obtain ⟨entry, found, rfl⟩ := Option.map_eq_some_iff.mp given
  exact decide_eq_true (clean entry (List.mem_of_find?_eq_some found)).1

/-- Nothing but the check of an update can refuse it. -/
theorem resolve_eq_map (update : MappingUpdate) (worker : WorkerName) (known : VirtualWorkerId) :
    update.resolve worker known = (update.validate worker known).map fun _ =>
      ⟨.ofEntries update.entries,
        if known.isValid then none else update.virtualWorkerOf worker⟩ := by
  rw [resolve]
  cases update.validate worker known <;> rfl

/-- An update is accepted exactly if it is clean and does not contradict what the receiver knows. -/
theorem resolve_eq_ok_iff (update : MappingUpdate) (worker : WorkerName) (known : VirtualWorkerId)
    (resolution : Resolution) :
    update.resolve worker known = .ok resolution ↔
      update.Clean ∧ (known.isValid → update.virtualWorkerOf worker = some known) ∧
        resolution = ⟨.ofEntries update.entries,
          if known.isValid then none else update.virtualWorkerOf worker⟩ := by
  rw [resolve_eq_map, validate, clean_iff_find?]
  cases update.entries.find? (!·.isValid) with
  | some entry => simp [Except.map]
  | none =>
    cases known.isValid with
    | false => simp [Except.map, eq_comm]
    | true =>
      -- only a receiver that knows its virtual worker looks for its own row
      cases update.virtualWorkerOf worker with
      | none => simp [Except.map]
      | some received =>
        by_cases same : received = known
        · simp [Except.map, same, eq_comm]
        · simp [Except.map, same]

/-- An unambiguous update that gives the process a virtual worker maps that one to the process, and no
other one. -/
theorem Unambiguous.worker?_ofEntries (clear : update.Unambiguous worker) {own : VirtualWorkerId}
    (given : update.virtualWorkerOf worker = some own) (id : VirtualWorkerId) :
    (WorkerMap.ofEntries update.entries).worker? id = some worker ↔ id = own := by
  obtain ⟨first, found, rfl⟩ := Option.map_eq_some_iff.mp given
  have listed := List.mem_of_find?_eq_some found
  have same := clear first listed (by simpa using List.find?_some found)
  rw [WorkerMap.worker?, WorkerMap.rows_ofEntries, Option.map_map, Option.map_eq_some_iff]
  constructor
  · rintro ⟨last, lastFound, named⟩
    have lastListed := List.mem_reverse.mp (List.mem_of_find?_eq_some lastFound)
    have numbered : last.virtualWorker = id := by simpa using List.find?_some lastFound
    rw [← numbered]
    exact (same last lastListed).mp named
  · rintro rfl
    -- the first row of the process is a row of this virtual worker, so there is a last one
    have some_row : (update.entries.reverse.find?
        (·.virtualWorker = first.virtualWorker)).isSome := by
      rw [List.find?_isSome]
      exact ⟨first, List.mem_reverse.mpr listed, decide_eq_true rfl⟩
    obtain ⟨last, lastFound⟩ := Option.isSome_iff_exists.mp some_row
    have lastListed := List.mem_reverse.mp (List.mem_of_find?_eq_some lastFound)
    refine ⟨last, lastFound, (same last lastListed).mpr ?_⟩
    simpa using List.find?_some lastFound

end MappingUpdate

namespace Translator

/-! ## Histories -/

def applyAll (translator : Translator) (updates : List MappingUpdate) : Translator :=
  updates.foldl apply translator

/-- The answer to an update: why it is refused, or what it lets the translator discover. -/
def answer (translator : Translator) (update : MappingUpdate) :
    Except MappingRejection (Option VirtualWorkerId) :=
  (translator.resolve update).map (·.discovered)

def accepts (translator : Translator) (update : MappingUpdate) : Bool :=
  (translator.answer update).isOk

def accepted (translator : Translator) : List MappingUpdate → List MappingUpdate
  | [] => []
  | update :: updates =>
    if translator.accepts update then update :: (translator.apply update).accepted updates
    else (translator.apply update).accepted updates

/-- The first update of a history that is clean and names the process. -/
def firstNaming (worker : WorkerName) (history : List MappingUpdate) : Option MappingUpdate :=
  history.find? fun update => update.Clean ∧ update.Names worker

/-- The virtual worker that a history makes of the process. -/
def identity (worker : WorkerName) (history : List MappingUpdate) : Option VirtualWorkerId :=
  history.findSome? fun update => if update.Clean then update.virtualWorkerOf worker else none

variable {translator : Translator} {update : MappingUpdate} {worker : WorkerName}
  {strategy : Strategy} {history : List MappingUpdate} {id : VirtualWorkerId}

theorem applyAll_append (translator : Translator) (earlier later : List MappingUpdate) :
    translator.applyAll (earlier ++ later) = (translator.applyAll earlier).applyAll later :=
  List.foldl_append

theorem applyAll_concat (translator : Translator) (history : List MappingUpdate)
    (update : MappingUpdate) :
    translator.applyAll (history ++ [update]) = (translator.applyAll history).apply update :=
  translator.applyAll_append history [update]

theorem accepted_concat (translator : Translator) (history : List MappingUpdate)
    (update : MappingUpdate) :
    translator.accepted (history ++ [update]) =
      translator.accepted history ++
        if (translator.applyAll history).accepts update then [update] else [] := by
  induction history generalizing translator with
  | nil => rfl
  | cons first history ih =>
    have later : translator.applyAll (first :: history) =
        (translator.apply first).applyAll history := rfl
    rw [List.cons_append, accepted, accepted, ih, later]
    split <;> rfl

/-! ## One update -/

theorem accepts_iff :
    translator.accepts update ↔
      update.Clean ∧
        (translator.isReady → update.virtualWorkerOf translator.worker = some translator.known) := by
  have resolves := update.resolve_eq_ok_iff translator.worker translator.known
  rw [accepts, answer, resolve]
  cases resolved : update.resolve translator.worker translator.known with
  | ok resolution =>
    obtain ⟨clean, repeats, _⟩ := (resolves resolution).mp resolved
    exact iff_of_true rfl ⟨clean, repeats⟩
  | error rejection =>
    refine iff_of_false (by simp [Except.map, Except.isOk, Except.toBool]) ?_
    rintro ⟨clean, repeats⟩
    -- if both conditions held, the update would resolve
    rw [(resolves _).mpr ⟨clean, repeats, rfl⟩] at resolved
    cases resolved

theorem resolve_of_accepts (takes : translator.accepts update) :
    translator.resolve update = .ok ⟨.ofEntries update.entries,
      if translator.isReady then none else update.virtualWorkerOf translator.worker⟩ := by
  obtain ⟨clean, repeats⟩ := accepts_iff.mp takes
  exact (update.resolve_eq_ok_iff _ _ _).mpr ⟨clean, repeats, rfl⟩

theorem answer_of_accepts (takes : translator.accepts update) :
    translator.answer update =
      .ok (if translator.isReady then none else update.virtualWorkerOf translator.worker) := by
  rw [answer, resolve_of_accepts takes]
  rfl

theorem apply_of_refused (refused : translator.accepts update = false) :
    translator.apply update = translator := by
  rw [apply]
  cases resolved : translator.resolve update with
  | error rejection => rfl
  | ok resolution =>
    rw [accepts, answer, resolved] at refused
    cases refused

theorem apply_of_ready (takes : translator.accepts update) (ready : translator.isReady) :
    translator.apply update = { translator with map := .ofEntries update.entries } := by
  rw [apply, resolve_of_accepts takes, if_pos ready]
  rfl

/-- A translator that is not ready takes over the map and learns its virtual worker, if there is a row
for it. -/
theorem apply_of_not_ready (takes : translator.accepts update)
    (unready : translator.isReady = false) :
    translator.apply update =
      { translator with
        map := .ofEntries update.entries
        known := (update.virtualWorkerOf translator.worker).getD translator.known
        strategy := translator.strategy.map fun strategy =>
          ⟨strategy.told ++ (update.virtualWorkerOf translator.worker).toList⟩ } := by
  rw [apply, resolve_of_accepts takes, if_neg (by simp [unready])]
  cases update.virtualWorkerOf translator.worker with
  | some id => rfl
  | none => cases translator with
    | mk worker strategy known map => cases strategy <;> simp [accept]

/-! ## The identity -/

theorem identity_eq_bind (worker : WorkerName) (history : List MappingUpdate) :
    identity worker history = (firstNaming worker history).bind (·.virtualWorkerOf worker) := by
  induction history with
  | nil => rfl
  | cons update history ih =>
    rw [identity, firstNaming] at ih ⊢
    rw [List.findSome?_cons, List.find?_cons, ih]
    by_cases clean : update.Clean
    · by_cases named : update.Names worker
      · obtain ⟨id, given⟩ := Option.isSome_iff_exists.mp
          (MappingUpdate.isSome_virtualWorkerOf.mpr named)
        simp [clean, named, given]
      · simp [clean, named, MappingUpdate.virtualWorkerOf_of_not_names named]
    · simp [clean]

theorem named_of_firstNaming {first : MappingUpdate}
    (found : firstNaming worker history = some first) : first.Clean ∧ first.Names worker := by
  simpa using List.find?_some found

theorem exists_identity_of_firstNaming {first : MappingUpdate}
    (found : firstNaming worker history = some first) :
    ∃ id, first.virtualWorkerOf worker = some id ∧ identity worker history = some id := by
  obtain ⟨id, given⟩ := Option.isSome_iff_exists.mp
    (MappingUpdate.isSome_virtualWorkerOf.mpr (named_of_firstNaming found).2)
  exact ⟨id, given, by rw [identity_eq_bind, found, Option.bind_some, given]⟩

theorem identity_append (worker : WorkerName) (earlier later : List MappingUpdate) :
    identity worker (earlier ++ later) = (identity worker earlier).or (identity worker later) :=
  List.findSome?_append

theorem identity_concat (worker : WorkerName) (history : List MappingUpdate)
    (update : MappingUpdate) :
    identity worker (history ++ [update]) =
      (identity worker history).or
        (if update.Clean then update.virtualWorkerOf worker else none) := by
  rw [identity_append]
  exact congrArg _ List.findSome?_singleton

theorem firstNaming_eq_none_iff :
    firstNaming worker history = none ↔ identity worker history = none := by
  constructor
  · intro unnamed
    rw [identity_eq_bind, unnamed, Option.bind_none]
  · intro unknown
    cases found : firstNaming worker history with
    | none => rfl
    | some first =>
      obtain ⟨id, _, known⟩ := exists_identity_of_firstNaming found
      rw [unknown] at known
      cases known

theorem identity_of_append_eq_none {earlier later : List MappingUpdate}
    (unknown : identity worker (earlier ++ later) = none) : identity worker earlier = none := by
  rw [identity_append, Option.or_eq_none_iff] at unknown
  exact unknown.1

theorem identity_of_named {before : List MappingUpdate} {first : MappingUpdate}
    (unknown : identity worker before = none) (clean : first.Clean)
    (given : first.virtualWorkerOf worker = some id) (rest : List MappingUpdate) :
    identity worker (before ++ first :: rest) = some id := by
  rw [identity_append, unknown, Option.none_or, identity, List.findSome?_cons, if_pos clean, given]

theorem exists_cut_of_firstNaming {first : MappingUpdate}
    (found : firstNaming worker history = some first) :
    ∃ before rest, history = before ++ first :: rest ∧ firstNaming worker before = none := by
  obtain ⟨_, before, rest, cut, earliest⟩ := List.find?_eq_some_iff_append.mp found
  refine ⟨before, rest, cut, List.find?_eq_none.mpr fun update member => ?_⟩
  rw [Bool.not_eq_true, ← Bool.not_eq_true']
  exact earliest update member

theorem isValid_of_identity (known : identity worker history = some id) : id.isValid := by
  rw [identity_eq_bind] at known
  obtain ⟨first, found, given⟩ := Option.bind_eq_some_iff.mp known
  exact (named_of_firstNaming found).1.isValid_of_virtualWorkerOf given

theorem isValid_getD_identity (worker : WorkerName) (history : List MappingUpdate) :
    ((identity worker history).getD .unassigned).isValid = (identity worker history).isSome := by
  cases known : identity worker history with
  | none => rfl
  | some id => exact isValid_of_identity known

/-! ## After a history -/

def lastMap (updates : List MappingUpdate) : WorkerMap :=
  updates.getLast?.elim .empty fun update => .ofEntries update.entries

/-- What a fresh translator has become after a history. -/
def after (worker : WorkerName) (strategy : Strategy) (history : List MappingUpdate) : Translator :=
  (start worker (some strategy)).applyAll history

theorem after_concat (worker : WorkerName) (strategy : Strategy) (history : List MappingUpdate)
    (update : MappingUpdate) :
    after worker strategy (history ++ [update]) = (after worker strategy history).apply update :=
  applyAll_concat _ history update

/-- After a history a translator is determined by the identity and the last accepted update. -/
theorem after_eq (worker : WorkerName) (strategy : Strategy) (history : List MappingUpdate) :
    after worker strategy history =
      { worker
        strategy := some ⟨strategy.told ++ (identity worker history).toList⟩
        known := (identity worker history).getD .unassigned
        map := lastMap ((start worker (some strategy)).accepted history) } := by
  induction history using List.reverseRecOn with
  | nil => simp [after, applyAll, start, identity, accepted, lastMap]
  | append_singleton history update ih =>
    -- what the translator makes of the update depends on what it knows, which the hypothesis tells
    have ready : (after worker strategy history).isReady = (identity worker history).isSome := by
      rw [ih, isReady, isValid_getD_identity]
    rw [after_concat, identity_concat, accepted_concat, ← after]
    cases taken : (after worker strategy history).accepts update with
    | true =>
      have clean := (accepts_iff.mp taken).1
      rw [if_pos rfl, if_pos clean, lastMap, List.getLast?_concat]
      cases known : identity worker history with
      | none =>
        rw [known] at ready
        rw [apply_of_not_ready taken ready, ih, known]
        simp
      | some id =>
        rw [known] at ready
        rw [apply_of_ready taken ready, ih, known]
        rfl
    | false =>
      rw [apply_of_refused taken, ih, if_neg Bool.false_ne_true, List.append_nil]
      cases known : identity worker history with
      | some id => rfl
      | none =>
        -- a clean update is refused only where it contradicts the identity, and there is none
        rw [known] at ready
        have unclean : ¬ update.Clean := fun clean => by
          rw [accepts_iff.mpr ⟨clean, by simp [ready]⟩] at taken
          cases taken
        rw [if_neg unclean]
        rfl

/-- A translator that was never told its virtual worker becomes what a clean update makes of it. -/
theorem after_concat_of_unknown (unknown : identity worker history = none) (clean : update.Clean) :
    after worker strategy (history ++ [update]) =
      { worker
        strategy := some ⟨strategy.told ++ (update.virtualWorkerOf worker).toList⟩
        known := (update.virtualWorkerOf worker).getD .unassigned
        map := .ofEntries update.entries } := by
  have unready : (after worker strategy history).isReady = false := by
    rw [after_eq, isReady, isValid_getD_identity, unknown]
    rfl
  have takes : (after worker strategy history).accepts update :=
    accepts_iff.mpr ⟨clean, by simp [unready]⟩
  rw [after_concat, apply_of_not_ready takes unready, after_eq, unknown]
  simp

theorem isReady_after (worker : WorkerName) (strategy : Strategy) (history : List MappingUpdate) :
    (after worker strategy history).isReady = (identity worker history).isSome := by
  rw [after_eq, isReady, isValid_getD_identity]

theorem known_after (known : identity worker history = some id) :
    (after worker strategy history).known = id := by
  rw [after_eq, known, Option.getD_some]

theorem known_after_of_none (unknown : identity worker history = none) :
    (after worker strategy history).known = .unassigned := by
  rw [after_eq, unknown, Option.getD_none]

theorem strategy_after (worker : WorkerName) (strategy : Strategy) (history : List MappingUpdate) :
    (after worker strategy history).strategy =
      some ⟨strategy.told ++ (identity worker history).toList⟩ := by
  rw [after_eq]

theorem rows_after (worker : WorkerName) (strategy : Strategy) (history : List MappingUpdate)
    (id : VirtualWorkerId) :
    (after worker strategy history).map.rows[id]? =
      ((start worker (some strategy)).accepted history).getLast?.bind fun update =>
        (update.entries.reverse.find? (·.virtualWorker = id)).map fun entry =>
          (entry.worker, entry.workerEntity) := by
  rw [after_eq, lastMap]
  cases ((start worker (some strategy)).accepted history).getLast? with
  | none => simp [WorkerMap.empty]
  | some update => exact WorkerMap.rows_ofEntries update.entries id

theorem accepts_after_of_none (unknown : identity worker history = none) :
    (after worker strategy history).accepts update ↔ update.Clean := by
  rw [accepts_iff, isReady_after, unknown]
  simp

theorem accepts_after_of_some (known : identity worker history = some id) :
    (after worker strategy history).accepts update ↔
      update.Clean ∧ update.virtualWorkerOf worker = some id := by
  rw [accepts_iff, isReady_after, known_after known, known, after_eq]
  simp

theorem answer_after_of_none (unknown : identity worker history = none) (clean : update.Clean) :
    (after worker strategy history).answer update = .ok (update.virtualWorkerOf worker) := by
  rw [answer_of_accepts ((accepts_after_of_none unknown).mpr clean), isReady_after, unknown,
    after_eq]
  rfl

theorem answer_after_of_some (known : identity worker history = some id)
    (taken : (after worker strategy history).accepts update) :
    (after worker strategy history).answer update = .ok none := by
  rw [answer_of_accepts taken, isReady_after, known]
  rfl

theorem exists_last_accepted (strategy : Strategy) (known : identity worker history = some id) :
    ∃ update, ((start worker (some strategy)).accepted history).getLast? = some update ∧
      update.virtualWorkerOf worker = some id := by
  induction history using List.reverseRecOn with
  | nil => cases known
  | append_singleton history update ih =>
    rw [accepted_concat, ← after]
    rw [identity_concat] at known
    cases before : identity worker history with
    | some own =>
      obtain rfl : own = id := by simpa [before] using known
      by_cases taken : (after worker strategy history).accepts update
      · rw [if_pos taken, List.getLast?_concat]
        exact ⟨update, rfl, ((accepts_after_of_some before).mp taken).2⟩
      · rw [if_neg taken, List.append_nil]
        exact ih before
    | none =>
      -- without an identity before, it is this update that gives it
      rw [before, Option.none_or, Option.ite_none_right_eq_some] at known
      rw [if_pos ((accepts_after_of_none before).mpr known.1), List.getLast?_concat]
      exact ⟨update, rfl, known.2⟩

/-- What a fresh translator makes of any history of updates.

If no clean update names the process, the translator is not ready, its strategy was told nothing, and
just the clean updates were accepted.  Otherwise it is ready, for good, with the virtual worker that
the first such update gives the process in its first row, and the strategy was told that one once;
updates before were accepted if clean, this one was accepted with the virtual worker discovered, and
updates after were accepted, discovering nothing, if clean and repeating it.  Its map has the last row
of each virtual worker in the last accepted update, and a refused update changes nothing. -/
theorem identity_of_history (worker : WorkerName) (strategy : Strategy)
    (history : List MappingUpdate) :
    let now := after worker strategy history
    (firstNaming worker history = none →
      now.isReady = false ∧ now.known = .unassigned ∧ now.strategy = some strategy ∧
        ∀ before update rest, history = before ++ update :: rest →
          ((after worker strategy before).accepts update ↔ update.Clean)) ∧
      (∀ first, firstNaming worker history = some first →
        ∃ before id rest, history = before ++ first :: rest ∧ firstNaming worker before = none ∧
          first.virtualWorkerOf worker = some id ∧
          now.isReady ∧ now.known = id ∧ now.strategy = some ⟨strategy.told ++ [id]⟩ ∧
          (∀ later, (after worker strategy (history ++ later)).known = id) ∧
          (∀ earlier update between, before = earlier ++ update :: between →
            ((after worker strategy earlier).accepts update ↔ update.Clean)) ∧
          (after worker strategy before).answer first = .ok (some id) ∧
          ∀ between update later, rest = between ++ update :: later →
            let met := after worker strategy (before ++ first :: between)
            (met.accepts update ↔ update.Clean ∧ update.virtualWorkerOf worker = some id) ∧
              (met.accepts update → met.answer update = .ok none)) ∧
      (∀ id, now.map.rows[id]? =
        ((start worker (some strategy)).accepted history).getLast?.bind fun update =>
          (update.entries.reverse.find? (·.virtualWorker = id)).map fun entry =>
            (entry.worker, entry.workerEntity)) ∧
      ∀ update, now.accepts update = false → now.apply update = now := by
  intro now
  refine ⟨fun unnamed => ?unnamed, fun first found => ?named, rows_after worker strategy history,
    fun update => apply_of_refused⟩
  case unnamed =>
    have unknown := firstNaming_eq_none_iff.mp unnamed
    refine ⟨?notReady, known_after_of_none unknown, ?untold, fun before update rest cut => ?taken⟩
    case notReady =>
      rw [isReady_after, unknown]
      rfl
    case untold => simp [now, strategy_after, unknown]
    case taken =>
      rw [cut] at unknown
      exact accepts_after_of_none (identity_of_append_eq_none unknown)
  case named =>
    obtain ⟨id, given, known⟩ := exists_identity_of_firstNaming found
    obtain ⟨before, rest, cut, unnamed⟩ := exists_cut_of_firstNaming found
    have clean := (named_of_firstNaming found).1
    have unknown := firstNaming_eq_none_iff.mp unnamed
    refine ⟨before, id, rest, cut, unnamed, given, ?_, known_after known, ?_, fun later => ?_,
      fun earlier update between cut' => ?_, ?_, fun between update later _ => ?_⟩
    · rw [isReady_after, known]
      rfl
    · rw [strategy_after, known]
      rfl
    · -- the first identity is the last
      exact known_after (by rw [identity_append, known, Option.some_or])
    · rw [cut'] at unknown
      exact accepts_after_of_none (identity_of_append_eq_none unknown)
    · rw [answer_after_of_none unknown clean, given]
    · have settled := identity_of_named unknown clean given between
      exact ⟨accepts_after_of_some settled, answer_after_of_some settled⟩

/-- Of four updates the first leaves the process out, the second uses the reserved virtual worker, the
third makes the process virtual worker 2 and the fourth contradicts that. -/
theorem identity_of_history_contradicted :
    let first : MappingUpdate := ⟨[⟨⟨2⟩, ⟨"WorkerA"⟩, ⟨10⟩⟩]⟩
    let history : List MappingUpdate := [⟨[⟨⟨1⟩, ⟨"WorkerB"⟩, ⟨11⟩⟩]⟩,
      ⟨[⟨⟨0⟩, ⟨"WorkerA"⟩, ⟨10⟩⟩]⟩, first, ⟨[⟨⟨3⟩, ⟨"WorkerA"⟩, ⟨10⟩⟩]⟩]
    let now := after ⟨"WorkerA"⟩ ⟨[]⟩ history
    firstNaming ⟨"WorkerA"⟩ history = some first ∧
      first.virtualWorkerOf ⟨"WorkerA"⟩ = some ⟨2⟩ ∧
      now.known = ⟨2⟩ ∧ now.strategy = some ⟨[⟨2⟩]⟩ := by
  intro first history now
  have found : firstNaming ⟨"WorkerA"⟩ history = some first := by decide
  have named : first.virtualWorkerOf ⟨"WorkerA"⟩ = some ⟨2⟩ := by decide
  obtain ⟨_, id, _, _, _, given, _, known, told, _⟩ :=
    (identity_of_history ⟨"WorkerA"⟩ ⟨[]⟩ history).2.1 first found
  obtain rfl : ⟨2⟩ = id := Option.some.inj (named.symm.trans given)
  exact ⟨found, named, known, told⟩

/-- If the last accepted update does not list the process under two virtual workers, or its virtual
worker under two processes, a ready translator finds its own process under its own virtual worker and
under no other. -/
theorem worker?_eq_some_iff (worker : WorkerName) (strategy : Strategy)
    (history : List MappingUpdate)
    (clear : ∀ update ∈ ((start worker (some strategy)).accepted history).getLast?,
      update.Unambiguous worker)
    (ready : (after worker strategy history).isReady) (id : VirtualWorkerId) :
    (after worker strategy history).worker? id = some worker ↔
      id = (after worker strategy history).known := by
  rw [isReady_after] at ready
  obtain ⟨own, known⟩ := Option.isSome_iff_exists.mp ready
  obtain ⟨last, isLast, repeats⟩ := exists_last_accepted strategy known
  rw [known_after known, worker?, after_eq, lastMap, isLast]
  exact (clear last isLast).worker?_ofEntries repeats id

/-- The first update lists the process twice, and the second one puts that right. -/
theorem worker?_eq_some_iff_pair :
    let history : List MappingUpdate :=
      [⟨[⟨⟨1⟩, ⟨"WorkerA"⟩, ⟨10⟩⟩, ⟨⟨2⟩, ⟨"WorkerA"⟩, ⟨10⟩⟩]⟩,
        ⟨[⟨⟨1⟩, ⟨"WorkerA"⟩, ⟨10⟩⟩, ⟨⟨2⟩, ⟨"WorkerB"⟩, ⟨11⟩⟩]⟩]
    let now := after ⟨"WorkerA"⟩ ⟨[]⟩ history
    (start ⟨"WorkerA"⟩ (some ⟨[]⟩)).accepted history = history ∧
      (∀ update ∈ history.getLast?, update.Unambiguous ⟨"WorkerA"⟩) ∧ now.isReady ∧
        now.known = ⟨1⟩ ∧ ∀ id, now.worker? id = some ⟨"WorkerA"⟩ ↔ id = ⟨1⟩ := by
  intro history now
  have accepted : (start ⟨"WorkerA"⟩ (some ⟨[]⟩)).accepted history = history := by decide
  have clear : ∀ update ∈ history.getLast?, update.Unambiguous ⟨"WorkerA"⟩ := by decide
  have ready : now.isReady := by decide
  have known : now.known = ⟨1⟩ := by decide
  refine ⟨accepted, clear, ready, known, fun id => ?_⟩
  rw [← known]
  exact worker?_eq_some_iff _ _ _ (accepted.symm ▸ clear) ready id

/-- An update that repeats what the process knows and then lists it under a second virtual worker is
accepted, and so is one that lists another process under the virtual worker of the process. -/
theorem own_rows_disagree :
    let twice := after ⟨"WorkerA"⟩ ⟨[]⟩ [⟨[⟨⟨1⟩, ⟨"WorkerA"⟩, ⟨10⟩⟩]⟩,
      ⟨[⟨⟨1⟩, ⟨"WorkerA"⟩, ⟨10⟩⟩, ⟨⟨2⟩, ⟨"WorkerA"⟩, ⟨10⟩⟩]⟩]
    let displaced := after ⟨"WorkerA"⟩ ⟨[]⟩
      [⟨[⟨⟨1⟩, ⟨"WorkerA"⟩, ⟨10⟩⟩, ⟨⟨1⟩, ⟨"WorkerB"⟩, ⟨11⟩⟩]⟩]
    (twice.isReady ∧ twice.known = ⟨1⟩ ∧ twice.worker? ⟨2⟩ = some ⟨"WorkerA"⟩) ∧
      displaced.isReady ∧ displaced.known = ⟨1⟩ ∧
        displaced.worker? ⟨1⟩ = some ⟨"WorkerB"⟩ := by decide

end Translator

end Handover
