import Handover.Proofs.Identity

/-! # What an update is refused for and how it is read

An update is looked through three times: for a row that uses a reserved value, for the first row of the
receiver, and, if neither stands against it, row by row for the map and for the virtual worker of the
receiver.  Here each of the three is told from the rows alone, by `MappingUpdate.Refuses` and by a
single pass over the rows, `MappingUpdate.readRow`.

The pass has a condition of its own for what it discovers.  It agrees with the first row of the receiver
since an update that gets that far is clean (`foldl_readRow`).
-/

namespace Handover

/-! ## The rows of a map -/

namespace WorkerMap

/-- The row is the last one of its virtual worker. -/
def LastOf (entries : List MappingEntry) (row : MappingEntry) : Prop :=
  ∃ before rest, entries = before ++ row :: rest ∧
    ∀ later ∈ rest, later.virtualWorker ≠ row.virtualWorker

theorem find?_reverse_eq_some_iff {entries : List MappingEntry} {row : MappingEntry} :
    entries.reverse.find? (·.virtualWorker = row.virtualWorker) = some row ↔
      LastOf entries row := by
  simp only [List.find?_eq_some_iff_append, decide_true, true_and, LastOf, Bool.not_eq_true',
    decide_eq_false_iff_not]
  constructor
  · rintro ⟨rest, before, cut, others⟩
    refine ⟨before.reverse, rest.reverse, ?_, fun later member => ?_⟩
    · rw [← List.reverse_reverse entries, cut]
      simp
    · exact others later (List.mem_reverse.mp member)
  · rintro ⟨before, rest, rfl, others⟩
    refine ⟨rest.reverse, before.reverse, by simp, fun later member => ?_⟩
    exact others later (List.mem_reverse.mp member)

theorem exists_lastOf {entries : List MappingEntry} {entry : MappingEntry}
    (listed : entry ∈ entries) :
    ∃ row, LastOf entries row ∧ row.virtualWorker = entry.virtualWorker := by
  have some_row : (entries.reverse.find? (·.virtualWorker = entry.virtualWorker)).isSome :=
    List.find?_isSome.mpr ⟨entry, List.mem_reverse.mpr listed, decide_eq_true rfl⟩
  obtain ⟨row, found⟩ := Option.isSome_iff_exists.mp some_row
  have numbered : row.virtualWorker = entry.virtualWorker := by simpa using List.find?_some found
  rw [← numbered, find?_reverse_eq_some_iff] at found
  exact ⟨row, found, numbered⟩

theorem mem_toList_iff {map : WorkerMap} {row : MappingEntry} :
    row ∈ map.toList ↔ map.rows[row.virtualWorker]? = some (row.worker, row.workerEntity) := by
  rw [← Std.ExtTreeMap.mem_toList_iff_getElem?_eq_some, toList, List.mem_map]
  constructor
  · rintro ⟨_, listed, rfl⟩
    exact listed
  · intro listed
    exact ⟨_, listed, rfl⟩

theorem mem_toList_ofEntries_iff {entries : List MappingEntry} {row : MappingEntry} :
    row ∈ (ofEntries entries).toList ↔ LastOf entries row := by
  rw [mem_toList_iff, rows_ofEntries, Option.map_eq_some_iff, ← find?_reverse_eq_some_iff]
  constructor
  · rintro ⟨entry, found, same⟩
    have numbered : entry.virtualWorker = row.virtualWorker := by simpa using List.find?_some found
    rw [Prod.mk.injEq] at same
    have isRow : entry = row := by
      cases entry; cases row
      simp_all
    rw [found, isRow]
  · intro found
    exact ⟨row, found, rfl⟩

/-- The rows of a map come by ascending virtual worker, so that none has two. -/
theorem ascending_toList (map : WorkerMap) :
    map.toList.Pairwise fun row later => row.virtualWorker.val < later.virtualWorker.val := by
  have below {id id' : VirtualWorkerId} (less : compare id id' = .lt) : id.val < id'.val :=
    Std.compare_eq_lt.mp less
  exact List.pairwise_map.mpr (map.rows.ordered_keys_toList.imp below)

end WorkerMap

namespace MappingUpdate

/-! ## Refusals -/

/-- What an update is refused for by a worker that knows its virtual worker, or does not yet. -/
inductive Refuses (update : MappingUpdate) (worker : WorkerName) (known : VirtualWorkerId) :
    MappingRejection → Prop where
  | reserved {before rest : List MappingEntry} {entry : MappingEntry}
      (cut : update.entries = before ++ entry :: rest) (clean : Clean ⟨before⟩)
      (uses : entry.virtualWorker = .unassigned ∨ entry.worker = .nobody) :
      Refuses update worker known (.reservedEntry entry.virtualWorker entry.worker)
  | missing (clean : update.Clean) (knows : known ≠ .unassigned) (unnamed : ¬ update.Names worker) :
      Refuses update worker known (.missing worker known)
  | reassigned (clean : update.Clean) (knows : known ≠ .unassigned) {received : VirtualWorkerId}
      (given : update.virtualWorkerOf worker = some received) (other : received ≠ known) :
      Refuses update worker known (.reassigned worker known received)

variable {update : MappingUpdate} {worker : WorkerName} {known : VirtualWorkerId}
  {rejection : MappingRejection}

/-- The first row found at fault stands behind clean ones. -/
theorem find?_fault_eq_some_iff {entry : MappingEntry} :
    update.entries.find? (!·.isValid) = some entry ↔
      (entry.virtualWorker = .unassigned ∨ entry.worker = .nobody) ∧
        ∃ before rest, update.entries = before ++ entry :: rest ∧ Clean ⟨before⟩ := by
  simp only [List.find?_eq_some_iff_append, MappingEntry.isValid, VirtualWorkerId.isValid,
    WorkerName.isValid, Clean]
  simp [or_iff_not_imp_left]

theorem validate_eq_error_iff :
    update.validate worker known = .error rejection ↔ update.Refuses worker known rejection := by
  constructor
  -- the cases are those of the check: a reserved value first, then the first row of the receiver
  · intro refused
    rw [validate] at refused
    split at refused
    case h_1 entry found =>
      obtain ⟨uses, before, rest, cut, clean⟩ := find?_fault_eq_some_iff.mp found
      cases refused
      exact .reserved cut clean uses
    case h_2 noFault =>
      have clean := clean_iff_find?.mpr noFault
      split at refused
      case isFalse => cases refused
      case isTrue valid =>
        have knows : known ≠ .unassigned := of_decide_eq_true valid
        split at refused
        case h_1 received given =>
          split at refused
          case isTrue => cases refused
          case isFalse other =>
            cases refused
            exact .reassigned clean knows given other
        case h_2 nowhere =>
          cases refused
          exact .missing clean knows (mt isSome_virtualWorkerOf.mpr (by simp [nowhere]))
  · intro refuses
    rw [validate]
    cases refuses with
    | reserved cut clean uses =>
      rw [find?_fault_eq_some_iff.mpr ⟨uses, _, _, cut, clean⟩]
    | missing clean knows unnamed =>
      have valid : known.isValid := decide_eq_true knows
      rw [clean_iff_find?.mp clean, virtualWorkerOf_of_not_names unnamed]
      exact if_pos valid
    | reassigned clean knows given other =>
      have valid : known.isValid := decide_eq_true knows
      rw [clean_iff_find?.mp clean, given]
      exact (if_pos valid).trans (if_neg other)

theorem resolve_eq_error_iff :
    update.resolve worker known = .error rejection ↔
      update.validate worker known = .error rejection := by
  rw [resolve_eq_map]
  cases update.validate worker known <;> simp [Except.map]

/-! ## Reading row by row -/

/-- What has been read of an update, with one more row.  A receiver that does not know its virtual worker
discovers it from the first row for it. -/
def readRow (worker : WorkerName) (known : VirtualWorkerId) (soFar : Resolution)
    (row : MappingEntry) : Resolution where
  map := soFar.map.insert row
  discovered :=
    if known.isValid = false ∧ soFar.discovered = none ∧ row.virtualWorker.isValid ∧
        row.worker = worker then
      some row.virtualWorker
    else soFar.discovered

theorem virtualWorkerOf_cons (row : MappingEntry) (rows : List MappingEntry) (worker : WorkerName) :
    virtualWorkerOf ⟨row :: rows⟩ worker =
      if row.worker = worker then some row.virtualWorker else virtualWorkerOf ⟨rows⟩ worker := by
  by_cases own : row.worker = worker <;> simp [virtualWorkerOf, own]

theorem foldl_readRow (soFar : Resolution) {rows : List MappingEntry} (clean : Clean ⟨rows⟩) :
    rows.foldl (readRow worker known) soFar =
      ⟨rows.foldl WorkerMap.insert soFar.map,
        if known.isValid then soFar.discovered
        else soFar.discovered.or (virtualWorkerOf ⟨rows⟩ worker)⟩ := by
  induction rows generalizing soFar with
  | nil =>
    have nowhere : virtualWorkerOf ⟨[]⟩ worker = none := rfl
    rw [List.foldl_nil, List.foldl_nil, nowhere, Option.or_none, ite_self]
  | cons row rows ih =>
    obtain ⟨⟨numbered, _⟩, cleanRest⟩ := List.forall_mem_cons.mp clean
    have valid : row.virtualWorker.isValid := decide_eq_true numbered
    rw [List.foldl_cons, ih _ cleanRest, List.foldl_cons, virtualWorkerOf_cons]
    cases knows : known.isValid with
    | true => simp [readRow, knows]
    | false =>
      -- what was discovered before stays, and otherwise the row counts if it is for the receiver
      cases before : soFar.discovered with
      | some id => simp [readRow, before]
      | none => by_cases own : row.worker = worker <;> simp [readRow, knows, before, valid, own]

/-! ## A whole reading -/

/-- A reading refuses just what the check refuses, and for the same reason: the first row that uses a
reserved value; or else, if the receiver knows its virtual worker, that there is no row for it, or that
the first one gives it another.

An update that is not refused reads as a single pass over its rows leaves it.  A receiver that does not
know its virtual worker discovers that of its first row, and any other discovers nothing; the rows of the
map come by ascending virtual worker, and they are the last rows of all the virtual workers listed. -/
theorem resolve_by_rows (update : MappingUpdate) (worker : WorkerName) (known : VirtualWorkerId) :
    (∀ rejection, update.resolve worker known = .error rejection ↔
      update.validate worker known = .error rejection) ∧
    (∀ rejection, update.validate worker known = .error rejection ↔
      update.Refuses worker known rejection) ∧
    ∀ resolution, update.resolve worker known = .ok resolution →
      resolution = update.entries.foldl (readRow worker known) ⟨.empty, none⟩ ∧
      resolution.discovered =
        (if known = .unassigned then update.virtualWorkerOf worker else none) ∧
      (resolution.map.toList.Pairwise fun row later =>
        row.virtualWorker.val < later.virtualWorker.val) ∧
      (∀ row, row ∈ resolution.map.toList ↔ WorkerMap.LastOf update.entries row) ∧
      ∀ entry ∈ update.entries, ∃ row ∈ resolution.map.toList,
        row.virtualWorker = entry.virtualWorker := by
  refine ⟨fun _ => resolve_eq_error_iff, fun _ => validate_eq_error_iff, fun resolution read => ?_⟩
  obtain ⟨clean, _, rfl⟩ := (update.resolve_eq_ok_iff worker known resolution).mp read
  refine ⟨?_, ?_, WorkerMap.ascending_toList _, fun row => WorkerMap.mem_toList_ofEntries_iff,
    fun entry listed => ?_⟩
  · rw [foldl_readRow _ clean]
    rfl
  · by_cases unknown : known = .unassigned <;>
      simp [VirtualWorkerId.isValid, unknown]
  · obtain ⟨row, last, numbered⟩ := WorkerMap.exists_lastOf listed
    exact ⟨row, WorkerMap.mem_toList_ofEntries_iff.mpr last, numbered⟩

/-- A row that lists the first virtual worker again takes the place of the first, which the receiver
discovers nevertheless. -/
theorem resolve_by_rows_displaced :
    let update : MappingUpdate := ⟨[⟨⟨2⟩, ⟨"WorkerA"⟩, ⟨10⟩⟩, ⟨⟨1⟩, ⟨"WorkerA"⟩, ⟨11⟩⟩,
      ⟨⟨2⟩, ⟨"WorkerB"⟩, ⟨12⟩⟩]⟩
    ∃ resolution, update.resolve ⟨"WorkerA"⟩ .unassigned = .ok resolution ∧
      resolution.discovered = some ⟨2⟩ ∧ ⟨⟨2⟩, ⟨"WorkerB"⟩, ⟨12⟩⟩ ∈ resolution.map.toList := by
  intro update
  obtain ⟨_, _, read⟩ := resolve_by_rows update ⟨"WorkerA"⟩ .unassigned
  have last : WorkerMap.LastOf update.entries ⟨⟨2⟩, ⟨"WorkerB"⟩, ⟨12⟩⟩ :=
    ⟨update.entries.take 2, [], rfl, nofun⟩
  obtain ⟨_, discovered, _, rows, _⟩ := read _ rfl
  exact ⟨_, rfl, discovered, (rows _).mpr last⟩

end MappingUpdate

end Handover
