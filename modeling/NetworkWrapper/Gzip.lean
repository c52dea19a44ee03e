import NetworkWrapper.SendQueue

set_option autoImplicit false

-- gzip::Compressor. What zlib makes of the data is the parameter deflated.
namespace NetworkWrapper.Gzip

def maxBytes : Nat := 2000000000

-- One call of deflate(): it fills what it is given of the buffer, or less when
-- nothing is left to write.
def deflateInto (output : Bytes) (sizeCompressed : Nat) (chunk : Bytes) : Bytes :=
  output.take sizeCompressed ++ (chunk ++ output.drop (sizeCompressed + chunk.length))

def grow (output : Bytes) (size : Nat) : Bytes := output ++ List.replicate (size - output.length) 0

def deflateLoop (increase : Nat) (positive : 0 < increase) (output : Bytes) (sizeCompressed : Nat) (pending : Bytes) : Bytes :=
  let chunk := pending.take increase
  let written := deflateInto (grow output (sizeCompressed + increase)) sizeCompressed chunk
  if chunk.length = increase then
    deflateLoop increase positive written (sizeCompressed + increase) (pending.drop increase)
  else written.take (sizeCompressed + chunk.length)
termination_by pending.length
decreasing_by
  rename_i full
  simp only [chunk, List.length_take] at full
  simp only [List.length_drop]
  omega

def compress (deflate : Bytes → Bytes) (data : Bytes) : Except String Bytes :=
  if maxBytes < data.length then .error "size may use more memory than intended when decompressing"
  else .ok (deflateLoop (data.length / 2 + 1024) (by omega) [] 0 (deflate data))

theorem deflate_into_take (output chunk : Bytes) (sizeCompressed : Nat) (room : sizeCompressed ≤ output.length) :
    (deflateInto output sizeCompressed chunk).take (sizeCompressed + chunk.length) = output.take sizeCompressed ++ chunk := by
  have size : (output.take sizeCompressed ++ chunk).length = sizeCompressed + chunk.length := by
    simp [Nat.min_eq_left room]
  rw [deflateInto, ← List.append_assoc, ← size, List.take_left]

theorem grow_take (output : Bytes) (size kept : Nat) (room : kept ≤ output.length) :
    (grow output size).take kept = output.take kept := by
  rw [grow, List.take_append_of_le_length room]

theorem deflate_loop_eq (increase : Nat) (positive : 0 < increase) (output : Bytes) (sizeCompressed : Nat) (pending : Bytes)
    (room : sizeCompressed ≤ output.length) :
    deflateLoop increase positive output sizeCompressed pending = output.take sizeCompressed ++ pending := by
  fun_induction deflateLoop increase positive output sizeCompressed pending with
  | case1 output sizeCompressed pending chunk written full ih =>
      have grown : sizeCompressed + chunk.length ≤ (grow output (sizeCompressed + increase)).length := by
        simp only [grow, List.length_append, List.length_replicate]
        omega
      have front := deflate_into_take (grow output (sizeCompressed + increase)) chunk sizeCompressed (by omega)
      have kept : written.take (sizeCompressed + increase) = output.take sizeCompressed ++ chunk := by
        rw [← full, front, grow_take output _ _ room]
      have size : sizeCompressed + increase ≤ written.length := by
        simp only [written, deflateInto, List.length_append, List.length_take, List.length_drop]
        omega
      rw [ih size, kept, List.append_assoc, List.take_append_drop]
  | case2 output sizeCompressed pending chunk written short =>
      have whole : chunk = pending := by
        apply List.take_of_length_le
        simp only [chunk, List.length_take] at short
        omega
      have larger : sizeCompressed ≤ (grow output (sizeCompressed + increase)).length := by
        simp only [grow, List.length_append]
        omega
      rw [deflate_into_take _ chunk sizeCompressed larger, grow_take output _ _ room, whole]

theorem compress_eq (deflate : Bytes → Bytes) (data : Bytes) :
    compress deflate data =
      if maxBytes < data.length then .error "size may use more memory than intended when decompressing"
      else .ok (deflate data) := by
  rw [compress, deflate_loop_eq _ _ _ _ _ (Nat.zero_le _), List.take_zero, List.nil_append]

end NetworkWrapper.Gzip
