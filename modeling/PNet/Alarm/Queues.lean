import PNet.Lib.Fifo
import PNet.Options

/-! # Alarm queues

The queues of `pf_alarm.c`: one for the alarms of each priority that are to be sent, and one for the
alarm frames that have been received. The frames are in buffers, which the queue owns until they
are fetched.

* `SendQueue.step_answer`, `Receiving.step_answer`: what an operation keeps and answers.
* `queues_refine_fifo`: both queues answer as a bounded queue does, and the buffers of the received
  frames are freed once.
-/

namespace PNet.Alarm

open Fifo

/-! ## Indexes -/

/-- `pf_queue_accountant_t`; all numbers stay below the number of items. -/
structure Accountant where
  writeIndex : ℕ
  readIndex : ℕ
  count : ℕ
  /-- Whether there is a mutex. -/
  mutex : Bool
deriving DecidableEq, Repr

/-- `pf_queue_accountant_t`, fully cleared. -/
def clearedAccountant : Accountant := ⟨0, 0, 0, false⟩

namespace Accountant

def queueMutexCreate (p : Accountant) : Accountant := { p with mutex := true }

def queueIsAvailable (p : Accountant) : Bool := p.mutex

def reset (p : Accountant) : Accountant := { p with count := 0, readIndex := 0, writeIndex := 0 }

/-- The write index to use, when there is room in the queue. -/
def queueGetWriteindex (p : Accountant) : Option (ℕ × Accountant) :=
  if PNET_MAX_ALARMS ≤ p.count then
    none
  else
    some (p.writeIndex,
      { p with writeIndex := Ring.next PNET_MAX_ALARMS p.writeIndex, count := p.count + 1 })

/-- The read index to use, when the queue has an item. -/
def queueGetReadindex (p : Accountant) : Option (ℕ × Accountant) :=
  if p.count = 0 then
    none
  else
    some (p.readIndex,
      { p with readIndex := Ring.next PNET_MAX_ALARMS p.readIndex, count := p.count - 1 })

end Accountant

/-! ## Queues -/

/-- A queue with its items. -/
structure Queue (α : Type) where
  accountant : Accountant
  items : ℕ → α

namespace Queue
variable {α : Type}

/-- The common part of the post functions: whether the item is on the queue. -/
def post (q : Queue α) (x : α) : Queue α × Bool :=
  if q.accountant.queueIsAvailable = false then
    (q, false)
  else
    match q.accountant.queueGetWriteindex with
    | none => (q, false)
    | some (writeIndex, accountant) =>
      (⟨accountant, Function.update q.items writeIndex x⟩, true)

/-- The common part of the fetch functions; `leave` is what they leave of an item in its cell. -/
def fetch (leave : α → α) (q : Queue α) : Queue α × Option α :=
  if q.accountant.queueIsAvailable = false then
    (q, none)
  else
    match q.accountant.queueGetReadindex with
    | none => (q, none)
    | some (readIndex, accountant) =>
      let x := q.items readIndex
      (⟨accountant, Function.update q.items readIndex (leave x)⟩, some x)

end Queue

/-! ## Alarms to be sent -/

/-- `pf_alarm_send_queue_t`, of alarms of any kind. -/
abbrev SendQueue (α : Type) := Queue α

namespace SendQueue
variable {α : Type}

/-- `pf_alarm_send_queue_reset`; `zero` is an item all bytes of which are 0. -/
def sendQueueReset (zero : α) (q : SendQueue α) : SendQueue α :=
  if q.accountant.queueIsAvailable = false then q else ⟨q.accountant.reset, fun _ => zero⟩

/-- `pf_alarm_send_queue_post`. -/
def sendQueuePost (q : SendQueue α) (alarmData : α) : SendQueue α × Bool := q.post alarmData

/-- `pf_alarm_send_queue_fetch`. -/
def sendQueueFetch (q : SendQueue α) : SendQueue α × Option α := q.fetch id

/-- An operation on the queue. -/
def step (zero : α) (q : SendQueue α) : Op α → SendQueue α × Answer α
  | .post x => ((q.sendQueuePost x).1, .posted (q.sendQueuePost x).2)
  | .fetch => (q.sendQueueFetch.1, .fetched q.sendQueueFetch.2)
  | .reset => (q.sendQueueReset zero, .wasReset)

end SendQueue

/-! ## Received frames -/

/-- `pf_apmr_msg_t`, with a buffer or a null pointer. -/
structure ApmrMsg (β : Type) where
  frameIdPos : ℕ
  pBuf : Option β
deriving DecidableEq

/-- `pf_alarm_receive_queue_t`. -/
abbrev ReceiveQueue (β : Type) := Queue (ApmrMsg β)

namespace ReceiveQueue
variable {β : Type}

/-- `pf_alarm_receive_queue_reset`, with the buffers that are freed. -/
def receiveQueueReset (q : ReceiveQueue β) : ReceiveQueue β × List β :=
  if q.accountant.queueIsAvailable = false then
    (q, [])
  else
    (⟨q.accountant.reset, fun _ => ⟨0, none⟩⟩,
      (List.range PNET_MAX_ALARMS).filterMap fun ix => (q.items ix).pBuf)

/-- `pf_alarm_receive_queue_post`. -/
def receiveQueuePost (q : ReceiveQueue β) (alarmFrame : ApmrMsg β) : ReceiveQueue β × Bool :=
  q.post alarmFrame

/-- `pf_alarm_receive_queue_fetch`. -/
def receiveQueueFetch (q : ReceiveQueue β) : ReceiveQueue β × Option (ApmrMsg β) :=
  q.fetch fun _ => ⟨0, none⟩

end ReceiveQueue

/-- A queue of received frames with those who use it. -/
structure Receiving (β : Type) where
  queue : ReceiveQueue β
  /-- The buffers that have been stored in the queue. -/
  stored : List β
  /-- The buffers that `pf_alarm_apmr_periodic` has fetched and not freed yet. -/
  fetched : List β
  freed : List β

inductive ReceivingEvent (β : Type) where
  | op (op : Op (ApmrMsg β))
  /-- `pf_alarm_apmr_periodic` frees the buffer that it has handled. -/
  | bufFree

namespace Receiving
variable {β : Type}

def step (r : Receiving β) : ReceivingEvent β → Receiving β × Option (Answer (ApmrMsg β))
  | .op (.post m) =>
    let (queue, ok) := r.queue.receiveQueuePost m
    ({ r with queue, stored := if ok then r.stored ++ m.pBuf.toList else r.stored },
      some (.posted ok))
  | .op .fetch =>
    let (queue, m) := r.queue.receiveQueueFetch
    ({ r with queue, fetched := r.fetched ++ (m.bind ApmrMsg.pBuf).toList }, some (.fetched m))
  | .op .reset =>
    let (queue, bufs) := r.queue.receiveQueueReset
    ({ r with queue, freed := r.freed ++ bufs }, some .wasReset)
  | .bufFree =>
    ({ r with fetched := r.fetched.tail, freed := r.freed ++ r.fetched.head?.toList }, none)

/-- What a bounded queue answers to the operations among the events. -/
def answer (ms : List (ApmrMsg β)) :
    ReceivingEvent β → List (ApmrMsg β) × Option (Answer (ApmrMsg β))
  | .op op => ((Fifo.answer PNET_MAX_ALARMS ms op).1, some (Fifo.answer PNET_MAX_ALARMS ms op).2)
  | .bufFree => (ms, none)

end Receiving

/-! ## Each operation -/

namespace Queue
variable {α β : Type} {own : α → Option β} {q : Queue α} {xs : List α}

/-- A queue that is available has the items `xs`, and what they own. -/
structure HoldsItems (own : α → Option β) (q : Queue α) (xs : List α) : Prop where
  available : q.accountant.queueIsAvailable = true
  cleared : Cleared own PNET_MAX_ALARMS q.accountant.readIndex q.accountant.writeIndex
    q.accountant.count q.items xs

theorem HoldsItems.post (h : HoldsItems own q xs) (x : α) :
    HoldsItems own (q.post x).1 (answer PNET_MAX_ALARMS xs (.post x)).1 ∧
      Answer.posted (q.post x).2 = (answer PNET_MAX_ALARMS xs (.post x)).2 := by
  have hcount := h.cleared.count_eq
  unfold Queue.post Accountant.queueGetWriteindex
  rw [if_neg (by simp [h.available])]
  by_cases hroom : xs.length < PNET_MAX_ALARMS
  · have hcleared := h.cleared.post (hcount ▸ hroom) x
    rw [if_neg (by omega), answer_room hroom]
    exact ⟨⟨h.available, hcleared⟩, rfl⟩
  · -- the queue stays as it is
    rw [if_pos (by omega), answer_full hroom]
    exact ⟨h, rfl⟩

theorem HoldsItems.fetch (h : HoldsItems own q xs) (leave : α → α)
    (hleave : ∀ x, own (leave x) = none) :
    HoldsItems own (q.fetch leave).1 xs.tail ∧ (q.fetch leave).2 = xs.head? := by
  have hcount := h.cleared.count_eq
  unfold Queue.fetch Accountant.queueGetReadindex
  rw [if_neg (by simp [h.available])]
  cases xs with
  | nil =>
    have hzero : q.accountant.count = 0 := hcount
    rw [if_pos hzero]
    exact ⟨h, rfl⟩
  | cons x xs =>
    have hne : q.accountant.count ≠ 0 := by
      rw [hcount]
      exact Nat.succ_ne_zero xs.length
    rw [if_neg hne]
    exact ⟨⟨h.available, h.cleared.fetch (hleave _)⟩, congrArg some h.cleared.head⟩

/-- Any queue that is available, with its indexes reset and its items cleared. -/
theorem holdsItems_reset (h : q.accountant.queueIsAvailable = true) {zero : α}
    (hzero : own zero = none) :
    HoldsItems own ⟨q.accountant.reset, fun _ => zero⟩ [] :=
  ⟨h, Cleared.empty (by decide) fun _ _ => hzero⟩

end Queue

/-! ## Each queue -/

/-- The items of a queue for sending own nothing. -/
theorem SendQueue.step_answer {α : Type} (zero : α) {q : SendQueue α} {xs : List α} (op : Op α)
    (h : q.HoldsItems (fun _ => (none : Option Empty)) xs) :
    (q.step zero op).1.HoldsItems (fun _ => (none : Option Empty))
        (answer PNET_MAX_ALARMS xs op).1 ∧
      (q.step zero op).2 = (answer PNET_MAX_ALARMS xs op).2 := by
  cases op with
  | post x => exact h.post x
  | fetch =>
    have hfetch := h.fetch id fun _ => rfl
    exact ⟨hfetch.1, congrArg Answer.fetched hfetch.2⟩
  | reset =>
    unfold SendQueue.step SendQueue.sendQueueReset
    rw [if_neg (by simp [h.available])]
    exact ⟨Queue.holdsItems_reset h.available rfl, rfl⟩

/-- The buffers that have been stored are freed, in the hands of `pf_alarm_apmr_periodic`, or owned
by the items. -/
structure Receiving.Owns {β : Type} (r : Receiving β) (ms : List (ApmrMsg β)) : Prop where
  items : r.queue.HoldsItems ApmrMsg.pBuf ms
  owners : r.stored.Perm (r.freed ++ r.fetched ++ ms.filterMap ApmrMsg.pBuf)

theorem Receiving.step_answer {β : Type} {r : Receiving β} {ms : List (ApmrMsg β)}
    (e : ReceivingEvent β) (h : r.Owns ms) :
    (r.step e).1.Owns (Receiving.answer ms e).1 ∧ (r.step e).2 = (Receiving.answer ms e).2 := by
  have howners := h.owners
  rcases e with (m | _ | _) | _
  · -- a frame that is stored brings its buffer
    have hpost := h.items.post m
    refine ⟨⟨hpost.1, ?_⟩, congrArg some hpost.2⟩
    have hm : [m].filterMap ApmrMsg.pBuf = m.pBuf.toList := by
      cases hbuf : m.pBuf <;> simp [hbuf]
    by_cases hroom : ms.length < PNET_MAX_ALARMS
    · have hok : (r.queue.post m).2 = true := by
        have hans := hpost.2
        rw [answer_room hroom] at hans
        exact Answer.posted.inj hans
      unfold Receiving.step Receiving.answer ReceiveQueue.receiveQueuePost
      simp only [hok, if_true, answer_room hroom, List.filterMap_append, hm]
      rw [← List.append_assoc]
      exact howners.append_right _
    · have hok : (r.queue.post m).2 = false := by
        have hans := hpost.2
        rw [answer_full hroom] at hans
        exact Answer.posted.inj hans
      unfold Receiving.step Receiving.answer ReceiveQueue.receiveQueuePost
      simp only [hok, answer_full hroom]
      exact howners
  · -- the buffer of the frame changes hands
    have hfetch := h.items.fetch (fun _ => ⟨0, none⟩) fun _ => rfl
    refine ⟨⟨hfetch.1, ?_⟩, congrArg (some ∘ Answer.fetched) hfetch.2⟩
    have hmoved : (ms.head?.bind ApmrMsg.pBuf).toList ++ ms.tail.filterMap ApmrMsg.pBuf
        = ms.filterMap ApmrMsg.pBuf := by
      rcases ms with _ | ⟨m, ms⟩
      · rfl
      · cases hbuf : m.pBuf <;> simp [hbuf]
    show r.stored.Perm (r.freed ++ (r.fetched
      ++ ((r.queue.fetch fun _ => ⟨0, none⟩).2.bind ApmrMsg.pBuf).toList)
      ++ ms.tail.filterMap ApmrMsg.pBuf)
    rw [hfetch.2, ← List.append_assoc, List.append_assoc _ _ (ms.tail.filterMap _), hmoved]
    exact howners
  · -- the buffers are freed in the order of their cells
    unfold Receiving.step ReceiveQueue.receiveQueueReset
    rw [if_neg (by simp [h.items.available])]
    refine ⟨⟨Queue.holdsItems_reset h.items.available rfl, ?_⟩, rfl⟩
    calc r.stored.Perm (r.freed ++ r.fetched ++ ms.filterMap ApmrMsg.pBuf) := howners
      _ |>.Perm (r.freed ++ r.fetched ++
          (List.range PNET_MAX_ALARMS).filterMap (ApmrMsg.pBuf ∘ r.queue.items)) :=
          h.items.cleared.perm.symm.append_left _
      _ |>.Perm (r.freed ++ ((List.range PNET_MAX_ALARMS).filterMap
          (ApmrMsg.pBuf ∘ r.queue.items) ++ r.fetched)) := by
          rw [List.append_assoc]
          exact List.perm_append_comm.append_left _
      _ |>.Perm _ := by simp [Receiving.answer, Fifo.answer]
  · -- the next buffer that has been fetched is freed
    refine ⟨⟨h.items, ?_⟩, rfl⟩
    have hfetched : r.fetched.head?.toList ++ r.fetched.tail = r.fetched := by
      cases r.fetched <;> rfl
    unfold Receiving.step
    rw [List.append_assoc r.freed, hfetched]
    exact howners

/-- For a queue that is available, from a reset on. -/
theorem queues_refine_fifo :
    (∀ (α : Type) (zero : α) (q : SendQueue α) (ops : List (Op α)),
      q.accountant.queueIsAvailable = true →
      let sent := answers (SendQueue.step zero) (q.sendQueueReset zero) ops
      let fifo := answers (answer PNET_MAX_ALARMS) [] ops
      sent.2 = fifo.2 ∧
        Holds PNET_MAX_ALARMS sent.1.accountant.readIndex sent.1.accountant.writeIndex
          sent.1.accountant.count sent.1.items fifo.1) ∧
    ∀ (β : Type) (q : ReceiveQueue β) (es : List (ReceivingEvent β)),
      q.accountant.queueIsAvailable = true →
      let received := answers Receiving.step ⟨q.receiveQueueReset.1, [], [], []⟩ es
      let fifo := answers Receiving.answer [] es
      received.2 = fifo.2 ∧
        Holds PNET_MAX_ALARMS received.1.queue.accountant.readIndex
          received.1.queue.accountant.writeIndex received.1.queue.accountant.count
          received.1.queue.items fifo.1 ∧
        received.1.stored.Perm
          (received.1.freed ++ received.1.fetched ++ fifo.1.filterMap ApmrMsg.pBuf) := by
  constructor
  · intro α zero q ops hq
    have hreset : (q.sendQueueReset zero).HoldsItems (fun _ => (none : Option Empty)) [] := by
      unfold SendQueue.sendQueueReset
      rw [if_neg (by simp [hq])]
      exact Queue.holdsItems_reset hq rfl
    have hall := answers_eq (SendQueue.step zero) (answer PNET_MAX_ALARMS)
      (fun q xs op h => SendQueue.step_answer zero op h) hreset ops
    exact ⟨hall.2, hall.1.cleared.toHolds⟩
  · intro β q es hq
    have hreset : Receiving.Owns ⟨q.receiveQueueReset.1, [], [], []⟩ [] := by
      refine ⟨?_, List.Perm.refl _⟩
      unfold ReceiveQueue.receiveQueueReset
      rw [if_neg (by simp [hq])]
      exact Queue.holdsItems_reset hq rfl
    have hall := answers_eq Receiving.step Receiving.answer
      (fun r ms e h => Receiving.step_answer e h) hreset es
    exact ⟨hall.2, hall.1.items.cleared.toHolds, hall.1.owners⟩

/-- Of seven alarms the last one finds no room, and a frame that is left in the queue goes with a
reset. -/
theorem queues_refine_fifo_witness :
    (let q : SendQueue ℕ := ⟨⟨0, 0, 0, true⟩, fun _ => 0⟩
     let ops := [.post 1, .post 2, .post 3, .fetch, .post 4, .post 5, .post 6, .post 7, .post 8]
     (answers (SendQueue.step 0) (q.sendQueueReset 0) ops).2
       = (answers (answer PNET_MAX_ALARMS) [] ops).2) ∧
    let q : ReceiveQueue ℕ := ⟨⟨0, 0, 0, true⟩, fun _ => ⟨0, none⟩⟩
    let es := [.op (.post ⟨12, some 1⟩), .op (.post ⟨16, some 2⟩), .op .fetch, .bufFree, .op .reset]
    let received := (answers Receiving.step ⟨q.receiveQueueReset.1, [], [], []⟩ es).1
    received.freed = [1, 2] ∧ received.stored.Perm (received.freed ++ received.fetched
      ++ (answers Receiving.answer [] es).1.filterMap ApmrMsg.pBuf) := by
  refine ⟨(queues_refine_fifo.1 ℕ 0 ⟨⟨0, 0, 0, true⟩, fun _ => 0⟩ _ rfl).1, by decide, ?_⟩
  exact (queues_refine_fifo.2 ℕ ⟨⟨0, 0, 0, true⟩, fun _ => ⟨0, none⟩⟩ _ rfl).2.2

end PNet.Alarm
