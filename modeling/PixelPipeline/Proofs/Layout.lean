import PixelPipeline.Proofs.Construction

namespace PixelPipeline

open Outcome

section

variable {width height x y x' y' i : Nat}

theorem cell_lt (column : x < width) (row : y < height) : x + width * y < width * height := by
  have rows : width * (y + 1) ≤ width * height := Nat.mul_le_mul_left width row
  rw [Nat.mul_add] at rows
  omega

theorem cell_inj (column : x < width) (column' : x' < width) (same : x + width * y = x' + width * y') :
    x = x' ∧ y = y' := by
  have positive : 0 < width := Nat.zero_lt_of_lt column
  constructor
  · have columns := congrArg (· % width) same
    simpa [Nat.mod_eq_of_lt column, Nat.mod_eq_of_lt column'] using columns
  · have rows := congrArg (· / width) same
    simpa [Nat.add_mul_div_left _ _ positive, Nat.div_eq_of_lt column, Nat.div_eq_of_lt column'] using rows

theorem exists_cell (inside : i < width * height) : i % width < width ∧ i / width < height :=
  ⟨Nat.mod_lt i (Nat.pos_of_mul_pos_right (Nat.zero_lt_of_lt inside)), Nat.div_lt_of_lt_mul inside⟩

end

theorem exists_word {n : Nat} {bound : UInt32} (small : n < bound.toNat) : ∃ u : UInt32, u < bound ∧ u.toNat = n := by
  have value : (UInt32.ofNat n).toNat = n := UInt32.toNat_ofNat_of_lt' (small.trans bound.toNat_lt)
  exact ⟨.ofNat n, by rwa [UInt32.lt_iff_toNat_lt, value], value⟩

namespace Buffer

variable {b : Buffer} {r : Registry} {x y c x' y' c' : UInt32}

structure Inside (b : Buffer) (x y c : UInt32) : Prop where
  column : x < b.width
  row : y < b.height
  channel : c < b.channels

def place (b : Buffer) (x y c : UInt32) : Nat :=
  (x.toNat + b.width.toNat * y.toNat) * b.channels.toNat + c.toNat

def resultsTo (b : Buffer) (x y c : UInt32) : List Nat :=
  [b.width.toNat * y.toNat, x.toNat + b.width.toNat * y.toNat,
    (x.toNat + b.width.toNat * y.toNat) * b.channels.toNat, b.place x y c]

theorem place_eq : b.place x y c = c.toNat + b.channels.toNat * (x.toNat + b.width.toNat * y.toNat) := by
  rw [place, Nat.mul_comm, Nat.add_comm]

theorem Shaped.place_lt (shaped : b.Shaped r) (inside : b.Inside x y c) : b.place x y c < b.data.size := by
  have pixel : x.toNat + b.width.toNat * y.toNat < b.width.toNat * b.height.toNat := cell_lt inside.column inside.row
  have element := cell_lt (UInt32.lt_iff_toNat_lt.mp inside.channel) pixel
  rw [shaped.length, place_eq, Nat.mul_comm (_ * _)]
  exact element

theorem place_inj (inside : b.Inside x y c) (inside' : b.Inside x' y' c')
    (same : b.place x y c = b.place x' y' c') : x = x' ∧ y = y' ∧ c = c' := by
  rw [place_eq, place_eq] at same
  obtain ⟨channel, pixel⟩ := cell_inj inside.channel inside'.channel same
  obtain ⟨column, row⟩ := cell_inj inside.column inside'.column pixel
  exact ⟨UInt32.toNat_inj.mp column, UInt32.toNat_inj.mp row, UInt32.toNat_inj.mp channel⟩

theorem Shaped.exists_place (shaped : b.Shaped r) {i : Nat} (early : i < b.data.size) :
    ∃ x y c, b.Inside x y c ∧ b.place x y c = i := by
  rw [shaped.length, Nat.mul_comm (_ * _)] at early
  obtain ⟨channel, pixel⟩ := exists_cell early
  obtain ⟨column, row⟩ := exists_cell pixel
  obtain ⟨c, inChannels, c_eq⟩ := exists_word channel
  obtain ⟨x, inColumns, x_eq⟩ := exists_word column
  obtain ⟨y, inRows, y_eq⟩ := exists_word row
  refine ⟨x, y, c, ⟨inColumns, inRows, inChannels⟩, ?_⟩
  rw [place_eq, c_eq, x_eq, y_eq, Nat.mod_add_div, Nat.mod_add_div]

theorem toNat_word (b : Buffer) (x y c : UInt32) :
    ((x + b.width * y) * b.channels + c).toNat = b.place x y c % 4294967296 := by
  simp only [UInt32.toNat_add, UInt32.toNat_mul, place, Nat.reducePow, Nat.add_mod_mod, Nat.mod_mul_mod,
    Nat.mod_add_mod]

theorem get?_inside (inside : b.Inside x y c) : b.get? x y c = b.data[b.place x y c % 4294967296]? := by
  rw [get?, if_neg, toNat_word]
  simpa [not_or, UInt32.not_le] using And.intro (And.intro inside.column inside.row) inside.channel

theorem Shaped.get?_eq_none (shaped : b.Shaped r) : b.get? x y c = none ↔ ¬ b.Inside x y c := by
  constructor
  · intro missing inside
    rw [get?_inside inside, Array.getElem?_eq_none_iff] at missing
    have place := shaped.place_lt inside
    have reduced := Nat.mod_le (b.place x y c) 4294967296
    omega
  · intro outside
    rw [get?, if_pos]
    by_contra within
    simp only [Bool.or_eq_true, decide_eq_true_eq, not_or, UInt32.not_le] at within
    exact outside ⟨within.1.1, within.1.2, within.2⟩

theorem Shaped.results_le (shaped : b.Shaped r) {n : Nat} (member : n ∈ b.resultsTo x y c) : n ≤ b.place x y c := by
  have scaled : x.toNat + b.width.toNat * y.toNat ≤ (x.toNat + b.width.toNat * y.toNat) * b.channels.toNat :=
    Nat.le_mul_of_pos_right _ shaped.channels.1
  simp only [resultsTo, List.mem_cons, List.not_mem_nil, or_false] at member
  unfold place at member ⊢
  omega

theorem Shaped.fits_iff (shaped : b.Shaped r) :
    (∀ x y c, b.Inside x y c → ∀ n ∈ b.resultsTo x y c, n < 4294967296) ↔ b.data.size ≤ 4294967296 := by
  constructor
  · intro fits
    by_contra large
    obtain ⟨x, y, c, inside, place⟩ := shaped.exists_place (Nat.lt_of_not_le large)
    have last : b.place x y c < 4294967296 := fits x y c inside _ (by simp [resultsTo])
    omega
  · intro small x y c inside n member
    exact (shaped.results_le member).trans_lt ((shaped.place_lt inside).trans_le small)

end Buffer

namespace Construction

/-- `get?` is defined inside the buffer only, where it reads the place of its coordinates reduced to 32 bits. The
coordinates inside correspond to the elements one to one. Nothing wraps iff there are at most 2^32 elements. -/
theorem reads_place_in_word (environment : Environment) (owner : Owner) (calls : List GraphCall) (b : Buffer)
    (member : b ∈ (after environment owner calls).graph.registry.buffers) :
    (∀ x y c, b.get? x y c = none ↔ ¬ b.Inside x y c) ∧
    (∀ x y c, b.Inside x y c → b.get? x y c = b.data[b.place x y c % 4294967296]? ∧
      b.place x y c < b.data.size ∧
      ((∀ n ∈ b.resultsTo x y c, n < 4294967296) → b.get? x y c = b.data[b.place x y c]?)) ∧
    (∀ i < b.data.size, ∃! p : UInt32 × UInt32 × UInt32, b.Inside p.1 p.2.1 p.2.2 ∧ b.place p.1 p.2.1 p.2.2 = i) ∧
    ((∀ x y c, b.Inside x y c → ∀ n ∈ b.resultsTo x y c, n < 4294967296) ↔ b.data.size ≤ 4294967296) := by
  have shaped := (sound_after environment owner calls).shaped.buffers b member
  refine ⟨fun x y c => shaped.get?_eq_none, fun x y c inside => ⟨Buffer.get?_inside inside, shaped.place_lt inside,
    fun fits => ?_⟩, fun i early => ?_, shaped.fits_iff⟩
  · have place : b.place x y c < 4294967296 := fits _ (by simp [Buffer.resultsTo])
    rw [Buffer.get?_inside inside, Nat.mod_eq_of_lt place]
  · obtain ⟨x, y, c, inside, place⟩ := shaped.exists_place early
    refine ⟨(x, y, c), ⟨inside, place⟩, ?_⟩
    rintro ⟨x', y', c'⟩ ⟨inside', place'⟩
    obtain ⟨rfl, rfl, rfl⟩ := Buffer.place_inj inside' inside (place'.trans place.symm)
    rfl

def filling (owner : Owner) (b : Buffer) : List GraphCall :=
  [.setDimensions b.width b.height, .createBuffer b.name b.channels, .editBuffer ⟨owner, 0⟩ (.setData b.data)]

theorem buffers_filling (environment : Environment) (owner : Owner) (b : Buffer)
    (wide : 1 ≤ b.width.toNat ∧ b.width.toNat ≤ 2147483647) (high : 1 ≤ b.height.toNat ∧ b.height.toNat ≤ 2147483647)
    (few : 1 ≤ b.channels.toNat ∧ b.channels.toNat ≤ 4)
    (room : Registry.HasRoom ⟨owner, b.width, b.height, []⟩ b.channels)
    (length : b.data.size = b.width.toNat * b.height.toNat * b.channels.toNat) :
    (after environment owner (filling owner b)).graph.registry.buffers = [b] := by
  let blank : Buffer := .zeroed b.name b.width b.height b.channels
  let g (buffers : List Buffer) : Graph := ⟨environment, ⟨owner, b.width, b.height, buffers⟩, []⟩
  have set : (Graph.empty environment owner).attempt (.setDimensions b.width b.height) = .ok (none, g []) :=
    map_eq_ok.mpr ⟨g [], Graph.setDimensions_eq_ok.mpr ⟨wide, high, rfl, rfl⟩, rfl⟩
  have created : (g []).attempt (.createBuffer b.name b.channels) = .ok (some (.buffer ⟨owner, 0⟩), g [blank]) := by
    have nonzero : b.width ≠ 0 ∧ b.height ≠ 0 :=
      ⟨fun zero => by simp [zero] at wide, fun zero => by simp [zero] at high⟩
    exact map_eq_ok.mpr ⟨(⟨owner, 0⟩, g [blank]),
      Graph.createBuffer_eq_ok.mpr ⟨nonzero, few, List.not_mem_nil, room, rfl, rfl⟩, rfl⟩
  have filled : (g [blank]).attempt (.editBuffer ⟨owner, 0⟩ (.setData b.data)) = .ok (none, g [b]) := by
    have held : (g [blank]).buffer ⟨owner, 0⟩ = .ok blank := Registry.get_eq_ok.mpr ⟨rfl, rfl⟩
    have same : b.data.size = blank.data.size := length.trans (Buffer.size_zeroed wide.2 high.2 few.2).symm
    exact map_eq_ok.mpr ⟨g [b], Graph.modifyBuffer_eq_ok.mpr ⟨blank, b, held, if_pos same, rfl⟩, rfl⟩
  rw [after, filling, List.foldl_cons, ask_made set, List.foldl_cons, ask_made created, List.foldl_cons,
    ask_made filled]
  rfl

def numbered : Buffer := ⟨"b", 2, 2, 2, #[⟨0⟩, ⟨1⟩, ⟨2⟩, ⟨3⟩, ⟨4⟩, ⟨5⟩, ⟨6⟩, ⟨7⟩]⟩

theorem reads_place_in_word_numbered :
    numbered ∈ (after .openCL ⟨0⟩ (filling ⟨0⟩ numbered)).graph.registry.buffers ∧
      numbered.get? 0 2 0 = none ∧ numbered.get? 1 1 0 = some ⟨6⟩ := by
  have member : numbered ∈ (after .openCL ⟨0⟩ (filling ⟨0⟩ numbered)).graph.registry.buffers := by decide +kernel
  obtain ⟨none, some, -, fits⟩ := reads_place_in_word .openCL ⟨0⟩ (filling ⟨0⟩ numbered) numbered member
  have inside : numbered.Inside 1 1 0 := ⟨by decide, by decide, by decide⟩
  refine ⟨member, (none 0 2 0).mpr fun inside => absurd inside.row (by decide), ?_⟩
  exact (some 1 1 0 inside).2.2 (fits.mpr (by decide) 1 1 0 inside)

/-- 65536 pixels by 65536 with two channels, which makes 2^33 elements. All are zero but the first. -/
def pastWord : Buffer :=
  ⟨"b", 65536, 65536, 2, .ofFn fun i : Fin (65536 * 65536 * 2) => if i.val = 0 then ⟨1⟩ else .zero⟩

theorem reads_first_for_later : pastWord ∈ (after .openCL ⟨0⟩ (filling ⟨0⟩ pastWord)).graph.registry.buffers ∧
    pastWord.Inside 0 32768 0 ∧ pastWord.get? 0 32768 0 = some ⟨1⟩ ∧
    pastWord.data[pastWord.place 0 32768 0]? = some .zero := by
  have size : pastWord.data.size = pastWord.width.toNat * pastWord.height.toNat * pastWord.channels.toNat := by
    simp [pastWord]
  have only := buffers_filling .openCL ⟨0⟩ pastWord (by decide) (by decide) (by decide) (by decide) size
  have inside : pastWord.Inside 0 32768 0 := ⟨by decide, by decide, by decide⟩
  have place : pastWord.place 0 32768 0 = 4294967296 := by simp [Buffer.place, pastWord]
  refine ⟨?_, inside, ?_, ?_⟩
  · rw [only]
    exact List.mem_singleton_self _
  · rw [Buffer.get?_inside inside, place, pastWord, Array.getElem?_ofFn]
    rfl
  · rw [place, pastWord, Array.getElem?_ofFn]
    rfl

end Construction

end PixelPipeline
