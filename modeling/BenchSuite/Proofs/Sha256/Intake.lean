import BenchSuite.Proofs.Sha256.Padding
/-!
# Bytes on their way

`Holds` says what an intake has made of the bytes it took: full blocks, folded into the state, and a rest
that stands at the start of its block, where bytes of earlier blocks may follow.  One byte keeps it
(`absorb_took`), so any bytes do (`take_took`), and the blocks that end the message carry the rest and the
padding (`lastBlocks_holds`), as they do from wherever a block has room (`lastBlocks_of_room`).
-/
namespace BenchSuite.Sha256.Intake

variable {σ : Type} {step : σ → Block → σ} {init : σ}

/-- **What an intake has taken**: the bytes are full blocks and a rest shorter than a block; the state is
that after the blocks, and the rest is waiting. -/
structure Holds (step : σ → Block → σ) (init : σ) (m : List UInt8) (s : Intake σ) (blocks : List Block)
    (rest : List UInt8) : Prop where
  split : m = blocks.flatMap Vector.toList ++ rest
  short : rest.length < 64
  used : s.used = rest.length
  waiting : s.block.toList.take rest.length = rest
  bits : s.bits = UInt64.ofNat (512 * blocks.length)
  state : s.state = blocks.foldl step init

/-- **Bytes taken**, whatever their blocks and their rest are. -/
def Took (step : σ → Block → σ) (init : σ) (m : List UInt8) (s : Intake σ) : Prop :=
  ∃ blocks rest, Holds step init m s blocks rest

theorem Holds.length {m : List UInt8} {s : Intake σ} {blocks : List Block} {rest : List UInt8}
    (h : Holds step init m s blocks rest) : m.length = 64 * blocks.length + rest.length := by
  rw [h.split, List.length_append, length_flatMap_blocks]

theorem start_took : Took step init [] (start init) :=
  ⟨[], [], rfl, by decide, rfl, rfl, rfl, rfl⟩

theorem take_set (block : Block) {used : Nat} (room : used < 64) (b : UInt8) :
    (block.set used b).toList.take (used + 1) = block.toList.take used ++ [b] := by
  have hlen : used < block.toList.length := by rwa [Vector.length_toList]
  rw [Vector.toList_set, List.take_add_one, List.getElem?_set_self hlen, List.take_set_of_le (Nat.le_refl _)]
  rfl

theorem absorb_eq (block : Block) {used : Nat} (h : used < 64) (bits : UInt64) (state : σ) (b : UInt8) :
    absorb step ⟨block, used, bits, state⟩ b = .ok (if used + 1 = 64
      then ⟨block.set used b, 0, bits + 512, step state (block.set used b)⟩
      else ⟨block.set used b, used + 1, bits, state⟩) := by
  simp only [absorb, Checked.put_eq_ok _ h]
  show (if used + 1 = 64 then _ else _) = _
  split <;> rfl

/-- **One byte taken.** -/
theorem absorb_took (m : List UInt8) (s : Intake σ) (b : UInt8) (h : Took step init m s) :
    ∃ s', absorb step s b = .ok s' ∧ Took step init (m ++ [b]) s' := by
  obtain ⟨block, used, bits, state⟩ := s
  obtain ⟨blocks, rest, split, short, rfl, waiting, rfl, rfl⟩ := h
  have hset := take_set block short b
  rw [waiting] at hset
  have hsplit : m ++ [b] = blocks.flatMap Vector.toList ++ (rest ++ [b]) := by
    rw [split, List.append_assoc]
  rw [absorb_eq block short]
  by_cases full : rest.length + 1 = 64
  · have hblock : (block.set rest.length b).toList = rest ++ [b] := by
      rw [← hset, full, List.take_of_length_le (by rw [Vector.length_toList])]
    refine ⟨_, congrArg _ (if_pos full), blocks ++ [block.set rest.length b], [], ?_, by decide, rfl, rfl, ?_, ?_⟩
    · rw [hsplit, List.flatMap_append, List.flatMap_singleton, hblock, List.append_nil]
    · rw [List.length_append, Nat.mul_add, UInt64.ofNat_add]
      rfl
    · rw [List.foldl_append]
      rfl
  · have hlen : (rest ++ [b]).length = rest.length + 1 := List.length_append
    refine ⟨_, congrArg _ (if_neg full), blocks, rest ++ [b], hsplit, ?_, hlen.symm, ?_, rfl, rfl⟩
    · omega
    · rw [hlen, hset]

theorem take_took (m : List UInt8) (s : Intake σ) (bytes : List UInt8) (h : Took step init m s) :
    ∃ s', s.take step bytes = .ok s' ∧ Took step init (m ++ bytes) s' := by
  have took := Checked.foldlM_ok (fun b => [b]) (Took step init) absorb_took bytes m s h
  rwa [List.flatMap_singleton'] at took

theorem take_start (step : σ → Block → σ) (init : σ) (m : List UInt8) :
    ∃ s, (start init).take step m = .ok s ∧ Took step init m s :=
  take_took [] (start init) m start_took

/-! ## The end of a message -/

theorem fill_eq {n : Nat} (xs : Vector UInt8 n) (start stop : Nat) (h : start ≤ stop) (h' : stop ≤ n) (x : UInt8) :
    ∃ v, Checked.fill xs start stop x = .ok v ∧
      v.toList = xs.toList.take start ++ List.replicate (stop - start) x ++ xs.toList.drop stop := by
  refine ⟨_, if_pos ⟨h, h'⟩, ?_⟩
  rw [Vector.toList_ofFn]
  apply List.ext_getElem
  · simp only [List.length_ofFn, List.length_append, List.length_take, List.length_replicate,
      List.length_drop, Vector.length_toList]
    omega
  · intro i h1 h2
    have htake : (xs.toList.take start).length = start := by
      rw [List.length_take, Vector.length_toList]
      omega
    have hfill : (xs.toList.take start ++ List.replicate (stop - start) x).length = stop := by
      rw [List.length_append, htake, List.length_replicate]
      omega
    simp only [List.getElem_ofFn, List.getElem_append, htake, hfill, List.getElem_take, List.getElem_replicate,
      List.getElem_drop, Vector.getElem_toList]
    by_cases inside : i < stop
    · by_cases before : i < start
      · simp [inside, before, Nat.not_le.2 before]
      · simp [inside, before, Nat.le_of_not_lt before]
    · simp [inside, Nat.add_sub_cancel' (Nat.le_of_not_lt inside)]

theorem Holds.bit_length {m : List UInt8} {s : Intake σ} {blocks : List Block} {rest : List UInt8}
    (h : Holds step init m s blocks rest) :
    (s.bits + UInt64.ofNat (8 * s.used)).toNat = 8 * m.length % 2 ^ 64 := by
  rw [h.bits, h.used, ← UInt64.ofNat_add, UInt64.toNat_ofNat', h.length]
  congr 1
  omega

theorem lastBlocks_fits {block marked filled : Block} {used : Nat} {bits : UInt64} (state : σ)
    (fits : used < lengthOffset) (hm : Checked.put block used 0x80 = .ok marked)
    (hf : Checked.fill marked (used + 1) lengthOffset 0 = .ok filled) :
    (Intake.mk block used bits state).lastBlocks =
      .ok [putLength filled (bits + UInt64.ofNat (8 * used))] := by
  simp only [lastBlocks, hm, Checked.ok_bind, fits, if_true, hf]
  rfl

theorem lastBlocks_full {block marked filled zeroed : Block} {used : Nat} {bits : UInt64} (state : σ)
    (fits : ¬ used < lengthOffset) (hm : Checked.put block used 0x80 = .ok marked)
    (hf : Checked.fill marked (used + 1) 64 0 = .ok filled)
    (hz : Checked.fill filled 0 lengthOffset 0 = .ok zeroed) :
    (Intake.mk block used bits state).lastBlocks =
      .ok [filled, putLength zeroed (bits + UInt64.ofNat (8 * used))] := by
  simp only [lastBlocks, hm, Checked.ok_bind, fits, if_false, hf, hz]
  rfl

/-- **The blocks that end a message**, from any intake whose block has room: its bytes that are taken, the mark, the
zeros and the length. -/
theorem lastBlocks_of_room {s : Intake σ} (room : s.used < 64) :
    ∃ last, s.lastBlocks = .ok last ∧ last.flatMap Vector.toList = s.block.toList.take s.used ++ [0x80] ++
      List.replicate (zeros s.used) 0 ++ bigEndian 8 (s.bits + UInt64.ofNat (8 * s.used)).toNat := by
  obtain ⟨block, used, bits, state⟩ := s
  replace room : used < 64 := room
  have hput := Checked.put_eq_ok block room (0x80 : UInt8)
  have marked := take_set block room 0x80
  have htaken : (block.toList.take used).length = used := by
    rw [List.length_take, Vector.length_toList]
    exact Nat.min_eq_left (Nat.le_of_lt room)
  by_cases fits : used < 56
  · obtain ⟨v, hv, vlist⟩ := fill_eq (block.set used 0x80) _ lengthOffset fits (by decide) 0
    refine ⟨_, lastBlocks_fits state fits hput hv, ?_⟩
    have hz : zeros used = lengthOffset - (used + 1) := by
      unfold zeros lengthOffset
      omega
    have hv56 : (block.toList.take used ++ [0x80] ++ List.replicate (zeros used) (0 : UInt8)).length = lengthOffset := by
      rw [List.length_append, List.length_append, List.length_replicate, htaken, hz]
      exact Nat.add_sub_cancel' fits
    rw [List.flatMap_singleton, toList_putLength, vlist, marked, ← hz, List.take_left' hv56]
  · -- the length does not fit behind the mark: the block is filled up, and the length ends a block of zeros
    obtain ⟨v, hv, vlist⟩ := fill_eq (block.set used 0x80) _ 64 room (Nat.le_refl _) 0
    obtain ⟨w, hw, wlist⟩ := fill_eq v 0 lengthOffset (by decide) (by decide) 0
    refine ⟨_, lastBlocks_full state fits hput hv hw, ?_⟩
    have hz : zeros used = (64 - (used + 1)) + lengthOffset := by
      unfold zeros lengthOffset
      omega
    have hv64 : v.toList = block.toList.take used ++ [0x80] ++ List.replicate (64 - (used + 1)) 0 := by
      rw [vlist, marked, List.drop_eq_nil_of_le (by rw [Vector.length_toList]), List.append_nil]
    have hw56 : w.toList.take lengthOffset = List.replicate lengthOffset 0 := by
      rw [wlist, List.take_zero, List.nil_append, Nat.sub_zero, List.take_left' List.length_replicate]
    rw [List.flatMap_cons, List.flatMap_singleton, toList_putLength, hv64, hw56, hz,
      ← List.replicate_append_replicate]
    simp only [List.append_assoc]

theorem lastBlocks_holds {m : List UInt8} {s : Intake σ} {blocks : List Block} {rest : List UInt8}
    (h : Holds step init m s blocks rest) :
    ∃ last, s.lastBlocks = .ok last ∧ last.flatMap Vector.toList =
      rest ++ [0x80] ++ List.replicate (zeros m.length) 0 ++ bigEndian 8 (8 * m.length % 2 ^ 64) := by
  have room : s.used < 64 := h.used ▸ h.short
  have hz : zeros s.used = zeros m.length := by
    rw [h.used, h.length]
    unfold zeros
    omega
  have taken : s.block.toList.take s.used = rest := by rw [h.used, h.waiting]
  obtain ⟨last, ended, joined⟩ := lastBlocks_of_room room
  rw [taken, hz, h.bit_length] at joined
  exact ⟨last, ended, joined⟩

end BenchSuite.Sha256.Intake
