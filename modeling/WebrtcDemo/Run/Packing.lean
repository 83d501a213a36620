import Mathlib.Tactic.Ring
import WebrtcDemo.Video.Render

/-!
# Packed frames

`OnFrame` copies each plane of a buffer from its start and never asks for a stride, and
`paintGL` hands the packed planes to OpenGL, which starts every row at a multiple of 4. So
samples and texels are where they should be just in buffers without gaps, and in frames
whose rows are multiples of 4 as they are.
-/

namespace WebrtcDemo

open Block (pitches_agree_iff)

/-! ## Sizes -/

section
variable {w h r c : Nat}

theorem mulInt_of_lt {a b : Nat} (small : a * b < 2 ^ 31) : mulInt a b = some (a * b) := if_pos small

instance nontrivialUInt8 : Nontrivial UInt8 := ⟨0, 1, by decide⟩

theorem yuvSize_of_lt (small : w * h * 3 < 2 ^ 31) : yuvSize w h = some (w * h * 3 / 2) := by
  rw [yuvSize, mulInt_of_lt (by omega), Option.bind_some, mulInt_of_lt small, Option.map_some]

theorem yuvSize_isSome_iff : (yuvSize w h).isSome ↔ w * h * 3 < 2 ^ 31 := by
  constructor
  · intro some_
    by_contra large
    rw [yuvSize, mulInt] at some_
    split_ifs at some_
    · rw [Option.bind_some, mulInt, if_neg large] at some_
      simp at some_
    · simp at some_
  · intro small
    rw [yuvSize_of_lt small, Option.isSome_some]

/-- Half the rows of half the columns are no more than a quarter of the samples. -/
theorem halves_le (w h : Nat) : w / 2 * (h / 2) ≤ w * h / 4 := by
  rw [Nat.le_div_iff_mul_le (by norm_num)]
  calc w / 2 * (h / 2) * 4 = w / 2 * 2 * (h / 2 * 2) := by ring
    _ ≤ w * h := Nat.mul_le_mul (Nat.div_mul_le_self _ _) (Nat.div_mul_le_self _ _)

/-- A sample of a plane of chroma lies in the quarter that is set aside for it. -/
theorem chroma_lt (row : r < h / 2) (column : c < w / 2) : r * (w / 2) + c < w * h / 4 := by
  calc r * (w / 2) + c < (r + 1) * (w / 2) := by rw [Nat.succ_mul]; omega
    _ ≤ h / 2 * (w / 2) := Nat.mul_le_mul_right _ row
    _ = w / 2 * (h / 2) := Nat.mul_comm _ _
    _ ≤ w * h / 4 := halves_le w h

/-- The offset at which `paintGL` looks for the last plane. -/
theorem fivefold_div (area : Nat) : area * 5 / 4 = area + area / 4 := by omega

theorem luma_lt (row : r < h) (column : c < w) : r * w + c < w * h := by
  calc r * w + c < (r + 1) * w := by rw [Nat.succ_mul]; omega
    _ ≤ h * w := Nat.mul_le_mul_right _ row
    _ = w * h := Nat.mul_comm _ _

end

/-- A sample lies in its plane. -/
theorem plane_lt {rows columns pitch size r c : Nat} (row : r < rows) (column : c < columns)
    (plane : pitch * (rows - 1) + columns ≤ size) : r * pitch + c < size := by
  calc r * pitch + c < pitch * r + columns := by rw [Nat.mul_comm]; omega
    _ ≤ pitch * (rows - 1) + columns :=
      Nat.add_le_add_right (Nat.mul_le_mul_left _ (Nat.le_sub_one_of_lt row)) _
    _ ≤ size := plane

/-- A plane of `rows` rows holds as many cells as it has samples. -/
theorem plane_le {rows columns pitch size : Nat} (positive : 0 < rows) (fits : columns ≤ pitch)
    (plane : pitch * (rows - 1) + columns ≤ size) : columns * rows ≤ size := by
  obtain ⟨more, rfl⟩ := Nat.exists_eq_succ_of_ne_zero (Nat.ne_of_gt positive)
  calc columns * (more + 1) = columns * more + columns := Nat.mul_succ _ _
    _ ≤ pitch * more + columns := Nat.add_le_add_right (Nat.mul_le_mul_right _ fits) _
    _ ≤ size := plane

/-- A quarter of the luma samples are no more than the samples of a plane of chroma. -/
theorem I420Layout.quarter_le (g : I420Layout) {pitch size : Nat} (fits : (g.width + 1) / 2 ≤ pitch)
    (plane : pitch * ((g.height + 1) / 2 - 1) + (g.width + 1) / 2 ≤ size) :
    g.width * g.height / 4 ≤ size := by
  have positive := g.height_pos
  refine le_trans ?_ (plane_le (by omega) fits plane)
  refine Nat.div_le_of_le_mul ?_
  calc g.width * g.height ≤ (2 * ((g.width + 1) / 2)) * (2 * ((g.height + 1) / 2)) :=
        Nat.mul_le_mul (by omega) (by omega)
    _ = 4 * ((g.width + 1) / 2 * ((g.height + 1) / 2)) := by ring

theorem I420Buffer.area_le (b : I420Buffer) : b.width * b.height ≤ b.DataY.size :=
  plane_le b.height_pos b.rowY b.sizeY

/-! ## The writer -/

/-- The packed block holds the samples of the buffer, tight. -/
def PacksSamples (memory : Nat → UInt8) (b : I420Buffer) : Prop :=
  ∃ bytes, pack memory b = some bytes ∧
    (∀ r < b.height, ∀ c < b.width,
      bytes.read (r * b.width + c) = b.DataY.read (r * b.StrideY + c)) ∧
    (∀ r < b.height / 2, ∀ c < b.width / 2,
      bytes.read (b.width * b.height + r * (b.width / 2) + c) = b.DataU.read (r * b.StrideU + c)) ∧
    ∀ r < b.height / 2, ∀ c < b.width / 2,
      bytes.read (b.width * b.height + b.width * b.height / 4 + r * (b.width / 2) + c) =
        b.DataV.read (r * b.StrideV + c)

/-- No product overflows, and there are no gaps between the rows that are read. -/
def I420Layout.Gapless (g : I420Layout) : Prop :=
  g.width * g.height * 3 < 2 ^ 31 ∧ (g.height = 1 ∨ g.StrideY = g.width) ∧
    (g.height < 4 ∨ g.width = 1 ∨ g.StrideU = g.width / 2 ∧ g.StrideV = g.width / 2)

/-- **What `OnFrame` packs.** -/
theorem pack_cells (memory : Nat → UInt8) (b : I420Buffer)
    (small : b.width * b.height * 3 < 2 ^ 31) :
    ∃ bytes, pack memory b = some bytes ∧ bytes.size = b.width * b.height * 3 / 2 ∧
      (∀ i < b.width * b.height, bytes.cell i = b.DataY.cell i) ∧
      (∀ i < b.width * b.height / 4, bytes.cell (b.width * b.height + i) = b.DataU.cell i) ∧
      ∀ i < b.width * b.height / 4,
        bytes.cell (b.width * b.height + b.width * b.height / 4 + i) = b.DataV.cell i := by
  rw [pack, mulInt_of_lt (by omega), yuvSize_of_lt small]
  simp only [Option.bind_some]
  have luma := b.area_le
  have chromaU := b.quarter_le b.rowU b.sizeU
  have chromaV := b.quarter_le b.rowV b.sizeV
  generalize b.width * b.height = area at luma chromaU chromaV small ⊢
  rw [Block.copy_of_fits luma (by dsimp only; omega), Option.bind_some,
    Block.copy_of_fits chromaU (by dsimp only; omega), Option.bind_some,
    Block.copy_of_fits chromaV (by dsimp only; omega)]
  refine ⟨_, rfl, rfl, fun i inside => ?_, fun i inside => ?_, fun i inside => ?_⟩
  · have first : ¬ (area + area / 4 ≤ i ∧ i < area + area / 4 + area / 4) := by omega
    have second : ¬ (area ≤ i ∧ i < area + area / 4) := by omega
    simp [first, second, inside]
  · have first : ¬ area + area / 4 ≤ area + i := by omega
    simp [first, inside]
  · simp [inside]

theorem lt_of_pack {memory : Nat → UInt8} {b : I420Buffer} {bytes : Block UInt8}
    (packed : pack memory b = some bytes) : b.width * b.height * 3 < 2 ^ 31 := by
  rw [pack, Option.bind_eq_some_iff] at packed
  obtain ⟨area, -, packed⟩ := packed
  rw [Option.bind_eq_some_iff] at packed
  obtain ⟨size, sized, -⟩ := packed
  exact yuvSize_isSome_iff.1 (Option.isSome_of_eq_some sized)

/-- With the sizes in range, samples are packed where the strides make no difference. -/
theorem packsSamples_iff {memory : Nat → UInt8} {b : I420Buffer}
    (small : b.width * b.height * 3 < 2 ^ 31) :
    PacksSamples memory b ↔
      (∀ r < b.height, ∀ c < b.width,
        b.DataY.cell (r * b.width + c) = b.DataY.cell (r * b.StrideY + c)) ∧
      (∀ r < b.height / 2, ∀ c < b.width / 2,
        b.DataU.cell (r * (b.width / 2) + c) = b.DataU.cell (r * b.StrideU + c)) ∧
      ∀ r < b.height / 2, ∀ c < b.width / 2,
        b.DataV.cell (r * (b.width / 2) + c) = b.DataV.cell (r * b.StrideV + c) := by
  obtain ⟨bytes, packed, size, luma, chromaU, chromaV⟩ := pack_cells memory b small
  have quarters : b.width * b.height + b.width * b.height / 4 + b.width * b.height / 4 ≤
      bytes.size := by
    rw [size]
    omega
  have area := b.area_le
  rw [PacksSamples, packed]
  simp only [Option.some.injEq, exists_eq_left']
  refine and_congr ?_ (and_congr ?_ ?_) <;>
    refine forall₂_congr fun r row => forall₂_congr fun c column => ?_
  · have packs := luma_lt row column
    rw [Block.read_of_lt (by omega), Block.read_of_lt (plane_lt row column b.sizeY),
      Option.some.injEq, luma _ packs]
  · have packs := chroma_lt row column
    rw [Nat.add_assoc, Block.read_of_lt (by omega),
      Block.read_of_lt (plane_lt (by omega) (by omega) b.sizeU), Option.some.injEq, chromaU _ packs]
  · have packs := chroma_lt row column
    rw [Nat.add_assoc _ (r * _), Block.read_of_lt (by omega),
      Block.read_of_lt (plane_lt (by omega) (by omega) b.sizeV), Option.some.injEq, chromaV _ packs]

/-- A buffer of this layout, with whatever in its planes. -/
def I420Layout.filled (g : I420Layout) (Y U V : Nat → UInt8) : I420Buffer where
  toI420Layout := g
  DataY := ⟨_, Y⟩
  DataU := ⟨_, U⟩
  DataV := ⟨_, V⟩
  sizeY := Nat.le_refl _
  sizeU := Nat.le_refl _
  sizeV := Nat.le_refl _

/-- **The packed block holds the samples**, whatever they are, if and only if no product
overflows and there are no gaps between the rows. -/
theorem packs_samples_iff (g : I420Layout) :
    (∀ (memory : Nat → UInt8) (b : I420Buffer), b.toI420Layout = g → PacksSamples memory b) ↔
      g.Gapless := by
  have conditions : g.Gapless ↔ g.width * g.height * 3 < 2 ^ 31 ∧
      (g.height ≤ 1 ∨ g.width = 0 ∨ g.width = g.StrideY) ∧
      (g.height / 2 ≤ 1 ∨ g.width / 2 = 0 ∨ g.width / 2 = g.StrideU) ∧
      (g.height / 2 ≤ 1 ∨ g.width / 2 = 0 ∨ g.width / 2 = g.StrideV) := by
    have width_pos := g.width_pos
    have height_pos := g.height_pos
    rw [I420Layout.Gapless]
    omega
  rw [conditions, ← pitches_agree_iff, ← pitches_agree_iff, ← pitches_agree_iff]
  constructor
  · intro packs
    have small : g.width * g.height * 3 < 2 ^ 31 := by
      obtain ⟨bytes, packed, -⟩ := packs (fun _ => 0) (g.filled (fun _ => 0) (fun _ => 0) fun _ => 0) rfl
      exact lt_of_pack packed
    have agree := fun Y U V => (packsSamples_iff (b := g.filled Y U V) small).1 (packs (fun _ => 0) _ rfl)
    exact ⟨small, Block.reads_agree_iff.1 fun cell => (agree cell cell cell).1,
      Block.reads_agree_iff.1 fun cell => (agree cell cell cell).2.1,
      Block.reads_agree_iff.1 fun cell => (agree cell cell cell).2.2⟩
  · rintro ⟨small, luma, chromaU, chromaV⟩ memory b rfl
    exact (packsSamples_iff small).2 ⟨Block.reads_agree_iff.2 luma b.DataY.cell,
      Block.reads_agree_iff.2 chromaU b.DataU.cell, Block.reads_agree_iff.2 chromaV b.DataV.cell⟩

/-- A layout of two by two samples whose rows are padded to four cells. -/
def I420Layout.padded : I420Layout where
  width := 2
  height := 2
  StrideY := 4
  StrideU := 1
  StrideV := 1
  width_pos := by decide
  height_pos := by decide
  rowY := by decide
  rowU := by decide
  rowV := by decide

/-- The second row is packed from the padding of the first. -/
theorem padding_packed : ¬ ∀ memory b, PacksSamples memory b := by
  intro packs
  let b := I420Layout.padded.filled UInt8.ofNat UInt8.ofNat UInt8.ofNat
  have luma := ((packsSamples_iff (by decide)).1 (packs (fun _ => 0) b)).1
  exact absurd (luma 1 (by decide) 0 (by decide)) (by decide)

/-! ## The reader -/

/-- The three textures show the planes that are packed in a block. -/
structure Painting.Shows (p : Painting) (width height : Nat) (packed : Block UInt8) : Prop where
  Y : ∀ r < height, ∀ c < width, p.Y.texel r c = packed.read (r * width + c)
  U : ∀ r < height / 2, ∀ c < width / 2,
    p.U.texel r c = packed.read (width * height + r * (width / 2) + c)
  V : ∀ r < height / 2, ∀ c < width / 2,
    p.V.texel r c = packed.read (width * height + width * height / 4 + r * (width / 2) + c)

namespace VideoRender

/-- A packed frame is handed over, and painted. -/
def present (v : VideoRender) (width height : Nat) (yuvData : Block UInt8) : VideoRender :=
  (((v.SetVideoSize width height).SetYUVData yuvData).SetViewStated true).paintGL

/-- A widget without a fault shows every packed frame of this size. -/
def ShowsPacked (width height : Nat) : Prop :=
  ∀ (v : VideoRender) (yuvData : Block UInt8), v.fault = none →
    yuvData.size = width * height * 3 / 2 →
    (v.present width height yuvData).fault = none ∧
      ∃ p : Painting, (v.present width height yuvData).painted = v.painted ++ [p] ∧
        p.Shows width height yuvData

/-- The frame fits into the buffer, and the rows that are read follow one another at
multiples of 4. -/
def Aligned (width height : Nat) : Prop :=
  width * height ≤ mMaxVideoW * mMaxVideoH ∧
    (height = 1 ∨ 4 ∣ width ∧ (height < 4 ∨ 8 ∣ width))

section
variable {v : VideoRender} {width height : Nat} {yuvData : Block UInt8}

theorem size_le_iff :
    width * height * 3 / 2 ≤ bufferSize ↔ width * height ≤ mMaxVideoW * mMaxVideoH := by
  simp only [bufferSize, mMaxVideoW, mMaxVideoH]
  omega

theorem area_lt (small : width * height ≤ mMaxVideoW * mMaxVideoH) :
    width * height * 5 < 2 ^ 31 := by
  have area : width * height < 2457601 := Nat.lt_succ_of_le small
  omega

/-- A frame that fits is copied. -/
theorem SetYUVData_of_le (small : v.mVideoW * v.mVideoH ≤ mMaxVideoW * mMaxVideoH)
    (sized : yuvData.size = v.mVideoW * v.mVideoH * 3 / 2) :
    v.SetYUVData yuvData = { v with
      pBufYuv420p := fun i => if i < yuvData.size then yuvData.cell i else v.pBufYuv420p i } := by
  have area := area_lt small
  have fits := size_le_iff.2 small
  rw [SetYUVData, yuvSize_of_lt (by omega)]
  simp only
  rw [Block.copy_of_fits (by rw [sized]) (by rw [Nat.zero_add]; exact fits)]
  simp [buffer, sized]

/-- Any other frame is a fault: its size is beyond the `int`s, or beyond the buffer. -/
theorem SetYUVData_of_lt (large : mMaxVideoW * mMaxVideoH < v.mVideoW * v.mVideoH) :
    (v.SetYUVData yuvData).fault ≠ none := by
  rw [SetYUVData]
  by_cases range : v.mVideoW * v.mVideoH * 3 < 2 ^ 31
  · rw [yuvSize_of_lt range]
    simp only
    rw [Block.copy, if_neg]
    · simp
    · rintro ⟨-, inside⟩
      rw [Nat.zero_add] at inside
      exact absurd (size_le_iff.1 inside) (Nat.not_le.2 large)
  · rw [Option.not_isSome_iff_eq_none.1 (mt yuvSize_isSome_iff.1 range)]
    simp

/-- What `paintGL` uploads where no product overflows. -/
theorem paintGL_of_lt (small : v.mVideoW * v.mVideoH * 5 < 2 ^ 31) (shown : v.viewFlag = true) :
    v.paintGL = { v with
      painted := v.painted ++
        [{ Y := glTexImage2D v.mVideoW v.mVideoH v.buffer 0
           U := glTexImage2D (v.mVideoW / 2) (v.mVideoH / 2) v.buffer (v.mVideoW * v.mVideoH)
           V := glTexImage2D (v.mVideoW / 2) (v.mVideoH / 2) v.buffer
             (v.mVideoW * v.mVideoH + v.mVideoW * v.mVideoH / 4) }] } := by
  rw [paintGL, if_pos shown, mulInt_of_lt (by omega), Option.bind_some, mulInt_of_lt small]
  simp only [fivefold_div]

/-- Painting does not clear a fault. -/
theorem paintGL_fault (fault : v.fault ≠ none) : v.paintGL.fault ≠ none := by
  rw [paintGL]
  split_ifs
  · split
    · exact fault
    · simp
  · exact fault

variable (v yuvData) in
/-- **What is painted of a frame that fits.** -/
theorem present_of_le (small : width * height ≤ mMaxVideoW * mMaxVideoH)
    (sized : yuvData.size = width * height * 3 / 2) :
    ∃ buffer : Block UInt8, buffer.size = bufferSize ∧
      (∀ i, buffer.cell i = if i < yuvData.size then yuvData.cell i else v.pBufYuv420p i) ∧
      (v.present width height yuvData).fault = v.fault ∧
      (v.present width height yuvData).painted = v.painted ++
        [{ Y := glTexImage2D width height buffer 0
           U := glTexImage2D (width / 2) (height / 2) buffer (width * height)
           V := glTexImage2D (width / 2) (height / 2) buffer
             (width * height + width * height / 4) }] := by
  rw [present, SetYUVData_of_le small sized, paintGL_of_lt (area_lt small) rfl]
  exact ⟨_, rfl, fun i => rfl, rfl, rfl⟩

theorem present_of_lt (large : mMaxVideoW * mMaxVideoH < width * height) :
    (v.present width height yuvData).fault ≠ none :=
  paintGL_fault (SetYUVData_of_lt large)

end

/-! ### Texels -/

section
variable {rows columns start : Nat}

/-- Where the rows of a texture follow one another, it shows the plane. -/
theorem texel_of_aligned {buffer packed : Block UInt8} {r c : Nat}
    (fits : packed.size ≤ buffer.size) (copied : ∀ i < packed.size, buffer.cell i = packed.cell i)
    (aligned : rows ≤ 1 ∨ columns = 0 ∨ alignedRow columns = columns)
    (row : r < rows) (column : c < columns) (inside : start + r * columns + c < packed.size) :
    (glTexImage2D columns rows buffer start).texel r c = packed.read (start + r * columns + c) := by
  have same := pitches_agree_iff.2 aligned r row c column
  simp only [glTexImage2D]
  rw [Nat.add_assoc, same, ← Nat.add_assoc, Block.read_of_lt inside,
    Block.read_of_lt (Nat.lt_of_lt_of_le inside fits), copied _ inside]

/-- And only there does it show every plane. -/
theorem aligned_of_texels (size : Nat) {n : Nat}
    (inside : ∀ r < rows, ∀ c < columns, start + r * columns + c < n)
    (shown : ∀ cell : Nat → UInt8, ∀ r < rows, ∀ c < columns,
      (glTexImage2D columns rows ⟨size, cell⟩ start).texel r c =
        Block.read ⟨n, cell⟩ (start + r * columns + c)) :
    rows ≤ 1 ∨ columns = 0 ∨ alignedRow columns = columns := by
  have agree : ∀ cell : Nat → UInt8, ∀ r < rows, ∀ c < columns,
      cell (start + r * alignedRow columns + c) = cell (start + r * columns + c) := by
    intro cell r row c column
    have texel := shown cell r row c column
    rw [Block.read_of_lt (inside r row c column)] at texel
    exact (Block.read_eq_some_iff.1 texel).2
  refine pitches_agree_iff.1 fun r row c column => ?_
  have same := Block.reads_agree_iff.1 agree r row c column
  omega

end

/-- **A packed frame is shown as it was packed**, whatever its bytes, if and only if it fits
and its rows are aligned. -/
theorem shows_packed_iff {width height : Nat} (width_pos : 0 < width) (height_pos : 0 < height) :
    ShowsPacked width height ↔ Aligned width height := by
  have conditions : Aligned width height ↔ width * height ≤ mMaxVideoW * mMaxVideoH ∧
      (height ≤ 1 ∨ width = 0 ∨ alignedRow width = width) ∧
      (height / 2 ≤ 1 ∨ width / 2 = 0 ∨ alignedRow (width / 2) = width / 2) := by
    rw [Aligned]
    refine and_congr_right fun _ => ?_
    simp only [alignedRow]
    omega
  have inY : ∀ r < height, ∀ c < width, 0 + r * width + c < width * height * 3 / 2 := by
    intro r row c column
    have packs := luma_lt row column
    omega
  have inU : ∀ r < height / 2, ∀ c < width / 2,
      width * height + r * (width / 2) + c < width * height * 3 / 2 := by
    intro r row c column
    have packs := chroma_lt row column
    omega
  have inV : ∀ r < height / 2, ∀ c < width / 2,
      width * height + width * height / 4 + r * (width / 2) + c < width * height * 3 / 2 := by
    intro r row c column
    have packs := chroma_lt row column
    omega
  rw [conditions]
  constructor
  · intro shows
    have small : width * height ≤ mMaxVideoW * mMaxVideoH := by
      by_contra! large
      exact present_of_lt large (shows { pBufYuv420p := fun _ => 0 } ⟨_, fun _ => 0⟩ rfl rfl).1
    have textures : ∀ cell : Nat → UInt8, Painting.Shows
        { Y := glTexImage2D width height ⟨bufferSize, cell⟩ 0
          U := glTexImage2D (width / 2) (height / 2) ⟨bufferSize, cell⟩ (width * height)
          V := glTexImage2D (width / 2) (height / 2) ⟨bufferSize, cell⟩
            (width * height + width * height / 4) } width height
        ⟨width * height * 3 / 2, cell⟩ := by
      intro cell
      obtain ⟨-, p, painted, texels⟩ := shows { pBufYuv420p := cell } ⟨_, cell⟩ rfl rfl
      obtain ⟨⟨_, cell'⟩, rfl, copied, -, painted'⟩ :=
        present_of_le { pBufYuv420p := cell } ⟨_, cell⟩ small rfl
      obtain rfl : cell' = cell := funext fun i => (copied i).trans (ite_self _)
      rw [painted', List.append_cancel_left_eq, List.cons.injEq] at painted
      rwa [← painted.1] at texels
    refine ⟨small, aligned_of_texels bufferSize inY fun cell r row c column => ?_,
      aligned_of_texels bufferSize inU fun cell => (textures cell).U⟩
    rw [Nat.zero_add]
    exact (textures cell).Y r row c column
  · rintro ⟨small, luma, chroma⟩ v yuvData clear sized
    obtain ⟨buffer, size, copied, fault, painted⟩ := present_of_le v yuvData small sized
    have fits : yuvData.size ≤ buffer.size := by
      rw [sized, size]
      exact size_le_iff.2 small
    have inside : ∀ i < yuvData.size, buffer.cell i = yuvData.cell i := fun i inside =>
      (copied i).trans (if_pos inside)
    refine ⟨fault.trans clear, _, painted, ⟨fun r row c column => ?_, fun r row c column => ?_,
      fun r row c column => ?_⟩⟩
    · rw [← Nat.zero_add (r * width)]
      exact texel_of_aligned fits inside luma row column (sized ▸ inY r row c column)
    · exact texel_of_aligned fits inside chroma row column (sized ▸ inU r row c column)
    · exact texel_of_aligned fits inside chroma row column (sized ▸ inV r row c column)

theorem shows_packed_480 : 0 < 640 ∧ 0 < 480 ∧ (ShowsPacked 640 480 ↔ Aligned 640 480) :=
  ⟨by decide, by decide, shows_packed_iff (by decide) (by decide)⟩

/-- Rows of two bytes are read four bytes apart. -/
theorem short_rows_skewed :
    ¬ ∀ width height, 0 < width → 0 < height → ShowsPacked width height := by
  intro shows
  obtain ⟨-, p, painted, texels⟩ := shows 2 2 (by decide) (by decide)
    { pBufYuv420p := fun _ => 0 } ⟨6, UInt8.ofNat⟩ rfl rfl
  obtain ⟨buffer, size, copied, -, painted'⟩ :=
    present_of_le { pBufYuv420p := fun _ => 0 } ⟨6, UInt8.ofNat⟩
      (show 2 * 2 ≤ mMaxVideoW * mMaxVideoH by decide) rfl
  rw [painted', List.append_cancel_left_eq, List.cons.injEq] at painted
  rw [← painted.1] at texels
  have second := texels.Y 1 (by decide) 0 (by decide)
  have inside : 0 + 1 * alignedRow 2 + 0 < buffer.size := by
    rw [size]
    decide
  simp only [glTexImage2D] at second
  rw [Block.read_of_lt inside, copied, Block.read_of_lt (by decide)] at second
  exact absurd second (by decide)

end VideoRender

end WebrtcDemo
