import Mathlib.Tactic

/-! The queue of devices that were switched away from and still have to be told to stop. -/

namespace C64Stream

section Queue

/-- A device that still has to be told to stop. -/
structure StopEntry where
  host : String
  controlPort : Nat
  password : String
  restDemotedUntilNs : Nat
  attempts : Nat
  deriving DecidableEq

def c64StopQueueMax : Nat := 4

def receiveOnlyHost : String := "0.0.0.0"

/-- A host that there is nothing to stop at. -/
def NothingToStop (host : String) : Prop :=
  host = "" ∨ host = receiveOnlyHost

instance (host : String) : Decidable (NothingToStop host) :=
  inferInstanceAs (Decidable (_ ∨ _))

/-- Whether an entry is for a host and control port. -/
def StopEntry.isFor (entry : StopEntry) (host : String) (controlPort : Nat) : Bool :=
  entry.host = host && entry.controlPort = controlPort

/-- Queue a host to be stopped, and the entry that a full queue drops for it. -/
def c64StopQueueAdd (queue : List StopEntry) (host : String) (controlPort : Nat)
    (password : String) (restDemotedUntilNs : Nat) : List StopEntry × Option StopEntry :=
  if NothingToStop host then (queue, none)
  else
    let entry : StopEntry := ⟨host, controlPort, password, restDemotedUntilNs, 0⟩
    match queue.findIdx? fun queued => queued.isFor host controlPort with
    -- A host already queued is refreshed rather than duplicated.
    | some slot => (queue.set slot entry, none)
    | none =>
      if queue.length = c64StopQueueMax then (queue.tail ++ [entry], queue.head?)
      else (queue ++ [entry], none)

/-- Remove the entry for a host and control port. -/
def c64StopQueueCancel (queue : List StopEntry) (host : String) (controlPort : Nat) :
    List StopEntry :=
  queue.eraseP fun entry => entry.isFor host controlPort

/-- Remove the entry at a place. -/
def c64StopQueueRemoveAt (queue : List StopEntry) (index : Nat) : List StopEntry :=
  queue.eraseIdx index

/-- Record a failed stop attempt, and whether the entry has used up its attempts. -/
def c64StopQueueRecordFailure (queue : List StopEntry) (index maxAttempts : Nat) :
    List StopEntry × Bool :=
  match queue[index]? with
  | none => (queue, false)
  | some entry =>
    let failed := { entry with attempts := entry.attempts + 1 }
    (queue.set index failed, decide (maxAttempts ≤ failed.attempts))

end Queue

section Hosts

variable {queue : List StopEntry} {host : String} {controlPort : Nat} {other : String}
  {index : Nat}

/-- The hosts that are queued. -/
def queuedHosts (queue : List StopEntry) : List String :=
  queue.map (·.host)

theorem queuedHosts_set {slot : Nat} {entry : StopEntry}
    (same : ∀ old, queue[slot]? = some old → old.host = entry.host) :
    queuedHosts (queue.set slot entry) = queuedHosts queue := by
  apply List.ext_getElem?
  intro i
  simp only [queuedHosts, List.getElem?_map, List.getElem?_set]
  split
  · rename_i at_slot
    subst at_slot
    split
    · rename_i within
      rw [List.getElem?_eq_getElem within]
      simp [same _ (List.getElem?_eq_getElem within)]
    · rename_i beyond
      rw [List.getElem?_eq_none (by omega)]
  · rfl

theorem mem_queuedHosts_add {password : String} {restDemotedUntilNs : Nat}
    (queued : other ∈ queuedHosts queue) :
    other ∈ queuedHosts (c64StopQueueAdd queue host controlPort password restDemotedUntilNs).1 ∨
      ∃ entry,
        (c64StopQueueAdd queue host controlPort password restDemotedUntilNs).2 = some entry ∧
          entry.host = other := by
  unfold c64StopQueueAdd
  split
  · exact .inl queued
  · split
    · rename_i slot found
      left
      -- The refreshed entry is for the same host.
      obtain ⟨within, same, -⟩ := List.findIdx?_eq_some_iff_getElem.mp found
      rw [queuedHosts_set]
      · exact queued
      · intro old at_slot
        rw [List.getElem?_eq_getElem within] at at_slot
        obtain rfl := Option.some.inj at_slot
        simp only [StopEntry.isFor, Bool.and_eq_true, decide_eq_true_eq] at same
        exact same.1
    · split
      · -- A full queue drops its oldest entry.
        cases queue with
        | nil => simp [queuedHosts] at queued
        | cons oldest rest =>
          simp only [queuedHosts, List.map_cons, List.mem_cons] at queued
          rcases queued with rfl | later
          · exact .inr ⟨oldest, rfl, rfl⟩
          · left
            simp [queuedHosts] at later ⊢
            exact .inl later
      · left
        simp [queuedHosts] at queued ⊢
        exact .inl queued

theorem added_mem_queuedHosts {password : String} {restDemotedUntilNs : Nat}
    (something : ¬ NothingToStop host) :
    host ∈ queuedHosts (c64StopQueueAdd queue host controlPort password restDemotedUntilNs).1 := by
  unfold c64StopQueueAdd
  rw [if_neg something]
  dsimp only
  split
  · rename_i slot found
    obtain ⟨within, -, -⟩ := List.findIdx?_eq_some_iff_getElem.mp found
    exact List.mem_map.mpr ⟨_, List.mem_set within _, rfl⟩
  · split <;> simp [queuedHosts]

theorem mem_queuedHosts_cancel (queued : other ∈ queuedHosts queue) :
    other ∈ queuedHosts (c64StopQueueCancel queue host controlPort) ∨ other = host := by
  by_cases same : other = host
  · exact .inr same
  · left
    obtain ⟨entry, member, rfl⟩ := List.mem_map.mp queued
    refine List.mem_map.mpr ⟨entry, ?_, rfl⟩
    exact (List.mem_eraseP_of_neg (by simp [StopEntry.isFor, same])).mpr member

theorem mem_queuedHosts_removeAt {entry : StopEntry} (at_index : queue[index]? = some entry)
    (queued : other ∈ queuedHosts queue) :
    other ∈ queuedHosts (c64StopQueueRemoveAt queue index) ∨ other = entry.host := by
  obtain ⟨kept, member, rfl⟩ := List.mem_map.mp queued
  obtain ⟨i, found⟩ := List.mem_iff_getElem?.mp member
  by_cases here : i = index
  · subst here
    rw [at_index] at found
    exact .inr (congrArg StopEntry.host (Option.some.inj found).symm)
  · left
    refine List.mem_map.mpr ⟨kept, ?_, rfl⟩
    exact List.mem_eraseIdx_iff_getElem?.mpr ⟨i, here, found⟩

theorem queuedHosts_recordFailure {maxAttempts : Nat} :
    queuedHosts (c64StopQueueRecordFailure queue index maxAttempts).1 = queuedHosts queue := by
  unfold c64StopQueueRecordFailure
  split
  · rfl
  · rename_i entry found
    refine queuedHosts_set fun old at_index => ?_
    rw [found] at at_index
    rw [← Option.some.inj at_index]

theorem exists_of_recordFailure {maxAttempts : Nat}
    (exhausted : (c64StopQueueRecordFailure queue index maxAttempts).2 = true) :
    ∃ entry, (c64StopQueueRecordFailure queue index maxAttempts).1[index]? = some entry ∧
      maxAttempts ≤ entry.attempts := by
  unfold c64StopQueueRecordFailure at exhausted ⊢
  split at exhausted
  · cases exhausted
  · rename_i entry found
    have within : index < queue.length := (List.getElem?_eq_some_iff.mp found).1
    exact ⟨_, by simp [within], of_decide_eq_true exhausted⟩

end Hosts

end C64Stream
