import Mathlib.Order.CompletePartialOrder
import Mathlib.Order.Interval.Set.Disjoint
import WebrtcDemo.Run.Packing

/-!
# The ranges of the packing

Which cells the three copies of `OnFrame` read and write, as sizes and offsets alone decide
it. As long as no product overflows the copies stay in their planes, in the block, and out of
one another's way, and `paintGL` looks for each plane where it was written.
-/

namespace WebrtcDemo

/-! ## Copies by their offsets -/

/-- A `memcpy` of the first `count` cells of a plane, to the cell `start` of the block. -/
structure PlaneCopy where
  start : Nat
  count : Nat

namespace PlaneCopy

variable (copy : PlaneCopy)

def run (plane yuvBuffer : Block UInt8) : Option (Block UInt8) :=
  yuvBuffer.copy copy.start plane copy.count

/-- The cells of the plane that are read. -/
def reads : Set Nat := Set.Iio copy.count

/-- The cells of the block that are written. -/
def writes : Set Nat := Set.Ico copy.start (copy.start + copy.count)

section
variable {c d : PlaneCopy} {n : Nat}

theorem reads_subset (inside : c.count ≤ n) : c.reads ⊆ Set.Iio n := Set.Iio_subset_Iio inside

theorem writes_subset (inside : c.start + c.count ≤ n) : c.writes ⊆ Set.Iio n :=
  fun _ written => Nat.lt_of_lt_of_le written.2 inside

/-- One copy ends where another one starts, or before. -/
theorem apart (before : c.start + c.count ≤ d.start) : Disjoint c.writes d.writes :=
  Set.disjoint_left.2 fun _ first second =>
    absurd (Nat.lt_of_lt_of_le first.2 (Nat.le_trans before second.1)) (Nat.lt_irrefl _)

end

variable {copy} {plane plane' yuvBuffer packed : Block UInt8}

/-- A copy leaves the size, and every cell it does not write. -/
theorem run_frame (copied : copy.run plane yuvBuffer = some packed) :
    packed.size = yuvBuffer.size ∧ ∀ i ∉ copy.writes, packed.cell i = yuvBuffer.cell i := by
  obtain ⟨reads, writes⟩ := Block.copy_isSome_iff.1 (Option.isSome_of_eq_some copied)
  rw [run, Block.copy_of_fits reads writes, Option.some.injEq] at copied
  subst copied
  exact ⟨rfl, fun i outside => if_neg outside⟩

variable (yuvBuffer) in
/-- A copy that reads the first cells of a plane gives the same for all planes that hold the
same in these. -/
theorem run_congr {size : Nat} (inside : copy.reads ⊆ Set.Iio size) (held : size ≤ plane.size)
    (held' : size ≤ plane'.size) (same : ∀ i < size, plane.cell i = plane'.cell i) :
    copy.run plane yuvBuffer = copy.run plane' yuvBuffer := by
  have count : copy.count ≤ size := Set.Iio_subset_Iio_iff.1 inside
  by_cases writes : copy.start + copy.count ≤ yuvBuffer.size
  · rw [run, run, Block.copy_of_fits (Nat.le_trans count held) writes,
      Block.copy_of_fits (Nat.le_trans count held') writes]
    congr 2
    funext i
    split_ifs with written
    · exact same _ (by omega)
    · rfl
  · rw [run, run, Block.copy, Block.copy, if_neg (mt And.right writes), if_neg (mt And.right writes)]

end PlaneCopy

/-- The size that `OnFrame` allocates, and its three copies. -/
structure PackPlan where
  yuvBufferSize : Nat
  Y : PlaneCopy
  U : PlaneCopy
  V : PlaneCopy

def packPlan (width height : Nat) : Option PackPlan :=
  (mulInt width height).bind fun area =>
  (yuvSize width height).map fun yuvBufferSize =>
    { yuvBufferSize := yuvBufferSize
      Y := ⟨0, area⟩
      U := ⟨area, area / 4⟩
      V := ⟨area + area / 4, area / 4⟩ }

namespace PackPlan

/-- The copies, in their order, into a block that holds `memory`. -/
def run (plan : PackPlan) (memory : Nat → UInt8) (b : I420Buffer) : Option (Block UInt8) :=
  (plan.Y.run b.DataY ⟨plan.yuvBufferSize, memory⟩).bind fun yuvBuffer =>
  (plan.U.run b.DataU yuvBuffer).bind fun yuvBuffer =>
  plan.V.run b.DataV yuvBuffer

end PackPlan

/-- `OnFrame` packs by its plan. -/
theorem pack_eq_run (memory : Nat → UInt8) (b : I420Buffer) :
    pack memory b = (packPlan b.width b.height).bind fun plan => plan.run memory b := by
  rw [pack, packPlan, Option.bind_assoc]
  refine Option.bind_congr fun area _ => ?_
  rw [Option.bind_map]
  rfl

/-- The copies write nothing but their ranges. -/
theorem PackPlan.run_frame {plan : PackPlan} {memory : Nat → UInt8} {b : I420Buffer}
    {bytes : Block UInt8} (packed : plan.run memory b = some bytes) :
    bytes.size = plan.yuvBufferSize ∧
      ∀ i ∉ plan.Y.writes ∪ plan.U.writes ∪ plan.V.writes, bytes.cell i = memory i := by
  rw [run, Option.bind_eq_some_iff] at packed
  obtain ⟨luma, copiedY, packed⟩ := packed
  rw [Option.bind_eq_some_iff] at packed
  obtain ⟨chroma, copiedU, copiedV⟩ := packed
  obtain ⟨sizeY, frameY⟩ := PlaneCopy.run_frame copiedY
  obtain ⟨sizeU, frameU⟩ := PlaneCopy.run_frame copiedU
  obtain ⟨sizeV, frameV⟩ := PlaneCopy.run_frame copiedV
  refine ⟨sizeV.trans (sizeU.trans sizeY), fun i outside => ?_⟩
  rw [Set.mem_union, Set.mem_union, not_or, not_or] at outside
  obtain ⟨⟨outsideY, outsideU⟩, outsideV⟩ := outside
  rw [frameV i outsideV, frameU i outsideU, frameY i outsideY]

theorem packPlan_of_lt {w h : Nat} (small : w * h * 3 < 2 ^ 31) :
    packPlan w h = some
      { yuvBufferSize := w * h * 3 / 2
        Y := ⟨0, w * h⟩
        U := ⟨w * h, w * h / 4⟩
        V := ⟨w * h + w * h / 4, w * h / 4⟩ } := by
  rw [packPlan, mulInt_of_lt (by omega), Option.bind_some, yuvSize_of_lt small, Option.map_some]

/-! ## In bounds -/

/-- The copies read what the planes of a layout hold, and write apart from one another what
the block holds. -/
structure PackPlan.InBounds (plan : PackPlan) (g : I420Layout) : Prop where
  readsY : plan.Y.reads ⊆ Set.Iio (g.StrideY * (g.height - 1) + g.width)
  readsU : plan.U.reads ⊆ Set.Iio (g.StrideU * ((g.height + 1) / 2 - 1) + (g.width + 1) / 2)
  readsV : plan.V.reads ⊆ Set.Iio (g.StrideV * ((g.height + 1) / 2 - 1) + (g.width + 1) / 2)
  writesY : plan.Y.writes ⊆ Set.Iio plan.yuvBufferSize
  writesU : plan.U.writes ⊆ Set.Iio plan.yuvBufferSize
  writesV : plan.V.writes ⊆ Set.Iio plan.yuvBufferSize
  apartYU : Disjoint plan.Y.writes plan.U.writes
  apartYV : Disjoint plan.Y.writes plan.V.writes
  apartUV : Disjoint plan.U.writes plan.V.writes

/-- Two buffers of a layout that hold the same in its planes. -/
structure I420Layout.SamePlanes (g : I420Layout) (b b' : I420Buffer) : Prop where
  layout : b.toI420Layout = g
  layout' : b'.toI420Layout = g
  Y : ∀ i < g.StrideY * (g.height - 1) + g.width, b.DataY.cell i = b'.DataY.cell i
  U : ∀ i < g.StrideU * ((g.height + 1) / 2 - 1) + (g.width + 1) / 2,
    b.DataU.cell i = b'.DataU.cell i
  V : ∀ i < g.StrideV * ((g.height + 1) / 2 - 1) + (g.width + 1) / 2,
    b.DataV.cell i = b'.DataV.cell i

/-- Copies in bounds read nothing but the planes. -/
theorem PackPlan.InBounds.run_congr {plan : PackPlan} {g : I420Layout} (inside : plan.InBounds g)
    (memory : Nat → UInt8) {b b' : I420Buffer} (same : g.SamePlanes b b') :
    plan.run memory b = plan.run memory b' := by
  obtain ⟨rfl, layout', sameY, sameU, sameV⟩ := same
  have sizeY := b'.sizeY
  have sizeU := b'.sizeU
  have sizeV := b'.sizeV
  rw [layout'] at sizeY sizeU sizeV
  have runY := fun yuvBuffer => PlaneCopy.run_congr yuvBuffer inside.readsY b.sizeY sizeY sameY
  have runU := fun yuvBuffer => PlaneCopy.run_congr yuvBuffer inside.readsU b.sizeU sizeU sameU
  have runV := fun yuvBuffer => PlaneCopy.run_congr yuvBuffer inside.readsV b.sizeV sizeV sameV
  simp only [run, runY, runU, runV]

theorem packPlan_inBounds {g : I420Layout} {plan : PackPlan}
    (small : g.width * g.height * 3 < 2 ^ 31) (planned : packPlan g.width g.height = some plan) :
    plan.InBounds g := by
  obtain rfl := Option.some.inj ((packPlan_of_lt small).symm.trans planned)
  have sum : g.width * g.height + g.width * g.height / 4 + g.width * g.height / 4 ≤
      g.width * g.height * 3 / 2 := by omega
  exact {
    readsY := PlaneCopy.reads_subset (plane_le g.height_pos g.rowY (Nat.le_refl _))
    readsU := PlaneCopy.reads_subset (g.quarter_le g.rowU (Nat.le_refl _))
    readsV := PlaneCopy.reads_subset (g.quarter_le g.rowV (Nat.le_refl _))
    writesY := PlaneCopy.writes_subset (by dsimp only; omega)
    writesU := PlaneCopy.writes_subset (by dsimp only; omega)
    writesV := PlaneCopy.writes_subset (by dsimp only; omega)
    apartYU := PlaneCopy.apart (by dsimp only; omega)
    apartYV := PlaneCopy.apart (by dsimp only; omega)
    apartUV := PlaneCopy.apart (by dsimp only; omega) }

/-- **The packing stays in bounds, and is read where it was written.** -/
theorem packing_in_bounds (g : I420Layout) (small : 5 * g.width * g.height < 2 ^ 31) :
    ∃ plan, packPlan g.width g.height = some plan ∧
      plan.yuvBufferSize = g.width * g.height * 3 / 2 ∧ plan.InBounds g ∧
      (∀ (memory : Nat → UInt8) (b : I420Buffer), b.toI420Layout = g →
        pack memory b = plan.run memory b ∧
        ∃ bytes, pack memory b = some bytes ∧ bytes.size = plan.yuvBufferSize ∧
          ∀ i ∉ plan.Y.writes ∪ plan.U.writes ∪ plan.V.writes, bytes.cell i = memory i) ∧
      (∀ (memory : Nat → UInt8) (b b' : I420Buffer), g.SamePlanes b b' →
        pack memory b = pack memory b') ∧
      (∀ v : VideoRender, v.mVideoW = g.width → v.mVideoH = g.height → v.viewFlag = true →
        v.paintGL.painted = v.painted ++
          [{ Y := glTexImage2D g.width g.height v.buffer plan.Y.start
             U := glTexImage2D (g.width / 2) (g.height / 2) v.buffer plan.U.start
             V := glTexImage2D (g.width / 2) (g.height / 2) v.buffer plan.V.start }]) ∧
      plan.V.start = g.width * g.height + g.width * g.height / 4 ∧
      g.width * g.height * 5 / 4 = plan.V.start ∧
      plan.U.count = g.width * g.height / 4 ∧ plan.V.count = g.width * g.height / 4 ∧
      g.width / 2 * (g.height / 2) ≤ g.width * g.height / 4 := by
  have fivefold : g.width * g.height * 5 < 2 ^ 31 := by
    rwa [Nat.mul_comm _ 5, ← Nat.mul_assoc]
  have planned := packPlan_of_lt (w := g.width) (h := g.height) (by omega)
  have inside := packPlan_inBounds (by omega) planned
  have packs := fun memory (b : I420Buffer) (layout : b.toI420Layout = g) =>
    show pack memory b = PackPlan.run _ memory b by
      rw [pack_eq_run, layout, planned, Option.bind_some]
  refine ⟨_, planned, rfl, inside, ?_, fun memory b b' same => ?_, ?_, rfl, fivefold_div _,
    rfl, rfl, halves_le _ _⟩
  · rintro memory b rfl
    obtain ⟨bytes, packed, -⟩ := pack_cells memory b (by omega)
    obtain ⟨size, frame⟩ := PackPlan.run_frame ((packs memory b rfl).symm.trans packed)
    exact ⟨packs memory b rfl, bytes, packed, size, frame⟩
  · rw [packs memory b same.layout, packs memory b' same.layout', inside.run_congr memory same]
  · intro v width height shown
    rw [VideoRender.paintGL_of_lt (by rwa [width, height]) shown, width, height]

/-- A layout of odd sizes, without gaps. -/
def I420Layout.odd : I420Layout where
  width := 3
  height := 5
  StrideY := 3
  StrideU := 2
  StrideV := 2
  width_pos := by decide
  height_pos := by decide
  rowY := by decide
  rowU := by decide
  rowV := by decide

theorem odd_in_bounds : ∃ plan, packPlan 3 5 = some plan ∧ plan.InBounds I420Layout.odd := by
  obtain ⟨plan, planned, -, inside, -⟩ := packing_in_bounds I420Layout.odd (by decide)
  exact ⟨plan, planned, inside⟩

end WebrtcDemo
