import Mathlib.Data.List.Infix

set_option autoImplicit false

namespace NetworkWrapper

abbrev Bytes := List UInt8

-- A Beast error_code: none is success, otherwise the text of message().
abbrev ErrorCode := Option String

def emptySendBuffer : String := "send buffer requested size cannot be 0"

-- Both ends have the same private SendBuffer class. Its constructor throws on a
-- zero size, so a buffer that exists holds at least one byte.
structure SendBuffer where
  data : Bytes
  nonempty : data ≠ []
deriving DecidableEq

def SendBuffer.create (data : Bytes) : Except String SendBuffer :=
  if empty : data = [] then .error emptySendBuffer else .ok ⟨data, empty⟩

theorem send_buffer_created (data : Bytes) (given : data ≠ []) : SendBuffer.create data = .ok ⟨data, given⟩ := by
  simp [SendBuffer.create, given]

-- emplaceBack and popFront hold the queue's own lock, so each is one step for
-- the other threads; empty and peekFront take no lock.
structure SafeQueue (T : Type) where
  buffersToSend : List T
deriving DecidableEq

namespace SafeQueue

variable {T : Type}

def emplaceBack (queue : SafeQueue T) (value : T) : SafeQueue T × Nat :=
  let grown := queue.buffersToSend ++ [value]
  (⟨grown⟩, grown.length)

-- pop_front and front on an empty std::list are undefined.
def popFront (queue : SafeQueue T) : Option (SafeQueue T) :=
  match queue.buffersToSend with
  | [] => none
  | _ :: rest => some ⟨rest⟩

def peekFront (queue : SafeQueue T) : Option T := queue.buffersToSend.head?

def empty (queue : SafeQueue T) : Bool := queue.buffersToSend.isEmpty

end SafeQueue

theorem outstanding_front {T : Type} (queue writes : List T) (outstanding : writes <+: queue.take 1) (index : Nat)
    (pending : index < writes.length) : index = 0 ∧ ∃ front rest, queue = front :: rest ∧ writes = [front] := by
  cases queue with
  | nil =>
      rw [List.take_nil, List.prefix_nil] at outstanding
      simp [outstanding] at pending
  | cons front rest =>
      rw [List.take_succ_cons, List.take_zero] at outstanding
      rcases List.prefix_cons_iff.mp outstanding with none | ⟨tail, split, empty⟩
      · simp [none] at pending
      · rw [List.prefix_nil] at empty
        subst tail
        rw [split, List.length_singleton] at pending
        exact ⟨Nat.lt_one_iff.mp pending, front, rest, rfl, split⟩

theorem outstanding_length {T : Type} (queue writes : List T) (outstanding : writes <+: queue.take 1) :
    writes.length ≤ 1 :=
  outstanding.length_le.trans (List.length_take_le 1 queue)

end NetworkWrapper
