import PixelPipeline.Buffer

namespace PixelPipeline.RawFloats

def encode (data : Array Single) : ByteArray := ⟨(data.toList.flatMap Single.bytes).toArray⟩

/-- Floats from bytes, after those read `before`; fewer than four bytes at the end are dropped. -/
def decode (before : Array Single) : List UInt8 → Array Single
  | a :: b :: c :: d :: rest => decode (before.push (Single.ofBytes a b c d)) rest
  | _ => before

def read? (bytes : ByteArray) (count : Nat) : Option (Array Single) :=
  if bytes.size = count * Single.byteCount then some (decode #[] bytes.data.toList) else none

theorem decode_bytes_append (before : Array Single) (x : Single) (rest : List UInt8) :
    decode before (x.bytes ++ rest) = decode (before.push x) rest := by
  obtain ⟨b0, b1, b2, b3, hb, hx⟩ := x.exists_ofBytes
  rw [hb, List.cons_append, List.cons_append, List.cons_append, List.cons_append, List.nil_append, decode, hx]

theorem decode_flatMap_bytes (before : Array Single) (data : List Single) :
    decode before (data.flatMap Single.bytes) = before ++ data := by
  induction data generalizing before with
  | nil => simp [decode]
  | cons x data ih =>
    rw [List.flatMap_cons, decode_bytes_append, ih]
    simp

theorem length_flatMap_bytes (data : List Single) :
    (data.flatMap Single.bytes).length = data.length * Single.byteCount := by
  induction data with
  | nil => rfl
  | cons x data ih =>
    rw [List.flatMap_cons, List.length_append, ih, List.length_cons, Nat.succ_mul, Nat.add_comm]
    rfl

theorem size_encode (data : Array Single) : (encode data).size = data.size * Single.byteCount := by
  rw [encode, ByteArray.size, List.size_toArray, length_flatMap_bytes, Array.length_toList]

theorem read?_encode (data : Array Single) : read? (encode data) data.size = some data := by
  rw [read?, if_pos (size_encode data)]
  simp [encode, decode_flatMap_bytes]

theorem size_decode (before : Array Single) (bytes : List UInt8) :
    (decode before bytes).size = before.size + bytes.length / 4 := by
  induction before, bytes using decode.induct with
  | case1 before a b c d rest ih =>
    rw [decode, ih, Array.size_push]
    simp only [List.length_cons]
    omega
  | case2 bytes before short =>
    have few : bytes.length < 4 := by
      match bytes, short with
      | [], _ | [_], _ | [_, _], _ | [_, _, _], _ => simp
      | a :: b :: c :: d :: rest, short => exact absurd rfl (short a b c d rest)
    rw [decode.eq_2 _ _ short, Nat.div_eq_of_lt few, Nat.add_zero]

theorem size_of_read? {bytes : ByteArray} {count : Nat} {data : Array Single}
    (found : read? bytes count = some data) : data.size = count := by
  unfold read? at found
  split at found
  · rename_i whole
    cases found
    have length : bytes.data.toList.length = count * 4 := by simpa [Single.byteCount] using whole
    rw [size_decode, length, Nat.mul_div_cancel _ (by decide)]
    simp
  · cases found

theorem flatMap_bytes_decode {bytes : List UInt8} (before : Array Single) (whole : 4 ∣ bytes.length) :
    (decode before bytes).toList.flatMap Single.bytes = before.toList.flatMap Single.bytes ++ bytes := by
  induction before, bytes using decode.induct with
  | case1 before a b c d rest ih =>
    have shorter : 4 ∣ rest.length := by
      simp only [List.length_cons] at whole
      omega
    rw [decode, ih shorter, Array.toList_push, List.flatMap_append, List.flatMap_singleton, Single.bytes_ofBytes,
      List.append_assoc]
    rfl
  | case2 bytes before short =>
    rcases bytes with _ | ⟨a, _ | ⟨b, _ | ⟨c, _ | ⟨d, rest⟩⟩⟩⟩
    · simp [decode]
    · simp at whole
    · simp at whole
    · simp at whole
    · exact absurd rfl (short a b c d rest)

theorem read?_eq_some {bytes : ByteArray} {count : Nat} {data : Array Single} :
    read? bytes count = some data ↔ data.size = count ∧ encode data = bytes := by
  constructor
  · intro found
    refine ⟨size_of_read? found, ?_⟩
    unfold read? at found
    split at found
    · rename_i sized
      cases found
      have whole : 4 ∣ bytes.data.toList.length := by
        rw [Array.length_toList]
        exact ⟨count, sized.trans (Nat.mul_comm ..)⟩
      simp [encode, flatMap_bytes_decode #[] whole]
    · cases found
  · rintro ⟨rfl, rfl⟩
    exact read?_encode data

theorem exists_read?_iff {bytes : ByteArray} {count : Nat} :
    (∃ data, read? bytes count = some data) ↔ bytes.size = 4 * count := by
  have sized : count * Single.byteCount = 4 * count := Nat.mul_comm count 4
  rw [← sized]
  constructor
  · rintro ⟨data, found⟩
    obtain ⟨size, rfl⟩ := read?_eq_some.mp found
    rw [size_encode, size]
  · intro fits
    exact ⟨_, if_pos fits⟩

end PixelPipeline.RawFloats
