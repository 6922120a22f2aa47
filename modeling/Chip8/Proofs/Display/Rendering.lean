import Chip8.Display.Image
import Chip8.Proofs.Outcome

/-!
# Pictures of the display

A host sees the display in three forms: as a flat buffer of two values, as an image in which each
pixel has become a square, and as a buffer of packed words in the colours of a scheme. All of them
show the same pixels. An image in its own size is the buffer cut into rows, and the larger ones
follow from what repeating does to a list, used once for the rows and once within each row; the
packed words follow from components that do not overlap, so that joining them bit by bit adds them.
-/

namespace Chip8

section Repetition

variable {Item : Type} {factor : Nat}

theorem repeatEach_cons (factor : Nat) (item : Item) (rest : List Item) :
    repeatEach factor (item :: rest) = List.replicate factor item ++ repeatEach factor rest :=
  rfl

theorem length_repeatEach (factor : Nat) (items : List Item) :
    (repeatEach factor items).length = factor * items.length := by
  induction items with
  | nil => rfl
  | cons item rest ih =>
      rw [repeatEach_cons, List.length_append, List.length_replicate, ih, List.length_cons,
        Nat.mul_succ, Nat.add_comm]

theorem mem_of_mem_repeatEach {item : Item} {items : List Item}
    (repeated : item ∈ repeatEach factor items) : item ∈ items := by
  rcases List.mem_flatMap.mp repeated with ⟨original, original_mem, copied⟩
  exact List.eq_of_mem_replicate copied ▸ original_mem

theorem getElem?_repeatEach (positive : 0 < factor) (items : List Item) (index : Nat) :
    (repeatEach factor items)[index]? = items[index / factor]? := by
  induction items generalizing index with
  | nil => rfl
  | cons item rest ih =>
      rw [repeatEach_cons, List.getElem?_append, List.length_replicate]
      split
      · rename_i inFirst
        simp [inFirst, Nat.div_eq_of_lt inFirst]
      · rename_i behindFirst
        rw [ih, Nat.div_eq_sub_div positive (Nat.le_of_not_lt behindFirst),
          List.getElem?_cons_succ]

/-- The copies of an item are a block of indices, and the block tells the item. -/
theorem block_div {index offset : Nat} (inside : offset < factor) :
    (factor * index + offset) / factor = index := by
  rw [Nat.mul_add_div (Nat.zero_lt_of_lt inside), Nat.div_eq_of_lt inside, Nat.add_zero]

end Repetition

namespace Image

/-- The colour in a row and a column of an image, if it goes that far. -/
def pixel? (image : Image) (row column : Nat) : Option Rgb :=
  image[row]?.bind fun cells => cells[column]?

/-- The numbers of rows and of columns of an image. -/
structure HasSize (image : Image) (rows columns : Nat) : Prop where
  rows_eq : image.length = rows
  columns_eq : ∀ cells ∈ image, cells.length = columns

theorem pixel?_enlarge {factor : Nat} (positive : 0 < factor) (image : Image) (row column : Nat) :
    (image.enlarge factor).pixel? row column = image.pixel? (row / factor) (column / factor) := by
  rw [pixel?, enlarge, getElem?_repeatEach positive, List.getElem?_map, pixel?]
  cases image[row / factor]? with
  | none => rfl
  | some cells => simpa using getElem?_repeatEach positive cells column

theorem HasSize.enlarge {image : Image} {rows columns : Nat} (size : image.HasSize rows columns)
    (factor : Nat) : (image.enlarge factor).HasSize (factor * rows) (factor * columns) where
  rows_eq := by rw [Image.enlarge, length_repeatEach, List.length_map, size.rows_eq]
  columns_eq := by
    intro cells cells_mem
    rcases List.mem_map.mp (mem_of_mem_repeatEach cells_mem) with ⟨original, original_mem, rfl⟩
    rw [length_repeatEach, size.columns_eq original original_mem]

end Image

namespace Rgb

/-- The components of a colour as a host names them. -/
def components (color : Rgb) : List Int :=
  [color.red.toNat, color.green.toNat, color.blue.toNat]

theorem byte_toNat (value : UInt8) : Word.byte value.toNat = .ok value := by
  have bound : value.toNat < 256 := value.toNat_lt
  have same : UInt8.ofInt value.toNat = value := by
    apply UInt8.toNat_inj.mp
    rw [UInt8.ofInt, UInt8.toNat_ofNat']
    omega
  rw [Word.byte, if_pos (by omega), same]

theorem ofComponents_components (color : Rgb) : ofComponents color.components = .ok color := by
  simp [ofComponents, components, Word.bytes, byte_toNat]

/-- Packing shifts the components apart, so that no two of them have a bit in common. -/
theorem packIntegers_eq_add {red green blue : Nat} (green_lt : green < 256) (blue_lt : blue < 256) :
    packIntegers red green blue = (65536 * red + 256 * green + blue : Nat) := by
  have joined : packIntegers red green blue = (red * 65536 ||| green * 256 ||| blue : Nat) := rfl
  have upper : red * 65536 ||| green * 256 = 2 ^ 8 * (256 * red + green) := by
    have apart := Nat.two_pow_add_eq_or_of_lt (i := 16) (b := green * 256) (by omega) red
    rw [Nat.mul_comm red, ← apart]
    omega
  rw [joined, upper, ← Nat.two_pow_add_eq_or_of_lt blue_lt]
  congr 1
  omega

theorem toNat_pack (color : Rgb) :
    color.pack.toNat = 65536 * color.red.toNat + 256 * color.green.toNat + color.blue.toNat := by
  have red_lt : color.red.toNat < 256 := color.red.toNat_lt
  have green_lt : color.green.toNat < 256 := color.green.toNat_lt
  have blue_lt : color.blue.toNat < 256 := color.blue.toNat_lt
  rw [pack, packIntegers_eq_add green_lt blue_lt, UInt32.ofInt, UInt32.toNat_ofNat']
  omega

end Rgb

/-- Cuts a buffer into the rows of the display. -/
def inRows {Value : Type} (buffer : Vector Value 2048) : List (List Value) :=
  (List.range 32).map fun row => (buffer.toList.drop (64 * row)).take 64

namespace Display

/-- The picture is the framebuffer cut into rows, with a colour for each of its values. -/
theorem picture_eq_map_inRows (display : Display) (on off : Rgb) :
    display.picture on off =
      (inRows (display.framebuffer true false)).map
        (List.map fun pixel => if pixel then on else off) := by
  apply List.ext_getElem
  · simp [picture, inRows]
  · intro row rowInside _
    have row_lt : row < 32 := by simpa [picture] using rowInside
    apply List.ext_getElem
    · simp [picture, inRows]
      omega
    · intro column columnInside _
      have column_lt : column < 64 := by simpa [picture] using columnInside
      have row_eq : (64 * row + column) / 64 = row := by omega
      have column_eq : (64 * row + column) % 64 = column := by omega
      simp [picture, inRows, framebuffer, lit, row_eq, column_eq]

theorem pixel?_picture (display : Display) (on off : Rgb) (column : Fin 64) (row : Fin 32) :
    (display.picture on off).pixel? row column =
      some (if display.lit column row then on else off) := by
  have entry := display.getElem?_framebuffer true false column row
  rw [← Vector.getElem?_toList] at entry
  simp [picture_eq_map_inRows, Image.pixel?, inRows, List.getElem?_drop, entry]

theorem hasSize_picture (display : Display) (on off : Rgb) :
    (display.picture on off).HasSize 32 64 where
  rows_eq := by simp [picture]
  columns_eq := by simp [picture]

/-- The pixel of an image at a row and a column is the pixel of the display that one reaches by
dividing both by the factor. -/
theorem pixel?_image (display : Display) {factor : Nat} (positive : 0 < factor) (on off : Rgb)
    {row column : Nat} {pixelColumn : Fin 64} {pixelRow : Fin 32}
    (row_eq : row / factor = pixelRow) (column_eq : column / factor = pixelColumn) :
    (display.image factor on off).pixel? row column =
      some (if display.lit pixelColumn pixelRow then on else off) := by
  rw [image, Image.pixel?_enlarge positive, row_eq, column_eq, pixel?_picture]

theorem render_components (display : Display) {scale : Int} (positive : 1 ≤ scale) (on off : Rgb) :
    display.render scale on.components off.components =
      .ok (display.image scale.toNat on off) := by
  rw [render, if_neg (Int.not_lt.mpr positive), Rgb.ofComponents_components,
    Rgb.ofComponents_components]
  rfl

/-- Buffers of two different values are equal just if they show the same pixels. -/
theorem framebuffer_eq_iff {Value : Type} {on off : Value} (different : on ≠ off)
    (left right : Display) :
    left.framebuffer on off = right.framebuffer on off ↔
      ∀ column row, left.lit column row = right.lit column row := by
  constructor
  · intro same column row
    have entry := left.getElem?_framebuffer on off column row
    rw [same, getElem?_framebuffer, Option.some.injEq] at entry
    generalize left.lit column row = leftLit at entry
    generalize right.lit column row = rightLit at entry
    cases leftLit <;> cases rightLit <;> simp_all [different.symm]
  · intro same
    simp only [framebuffer, same]

end Display

namespace ColorScheme

theorem named_name : ∀ scheme ∈ all, named scheme.name = .ok scheme := by
  simp [all, named]

theorem pack_on_ne_pack_off : ∀ scheme ∈ all, scheme.on.pack ≠ scheme.off.pack := by
  decide

end ColorScheme

namespace Display

theorem xrgbNamed_name (display : Display) {scheme : ColorScheme}
    (known : scheme ∈ ColorScheme.all) :
    display.xrgbNamed scheme.name = .ok (display.framebuffer scheme.on.pack scheme.off.pack) := by
  rw [xrgbNamed, ColorScheme.named_name scheme known]
  rfl

theorem integerFramebuffer_of_fits (display : Display) {on off : Int}
    (onFits : Int64.minValue.toInt ≤ on ∧ on ≤ Int64.maxValue.toInt)
    (offFits : Int64.minValue.toInt ≤ off ∧ off ≤ Int64.maxValue.toInt) :
    display.integerFramebuffer on off = .ok (display.framebuffer on off) := by
  have accepted {value : Int}
      (fits : Int64.minValue.toInt ≤ value ∧ value ≤ Int64.maxValue.toInt) :
      Word.signed 64 value = .ok value :=
    if_pos ⟨fits.1, Int.lt_add_one_of_le fits.2⟩
  rw [integerFramebuffer, accepted onFits, accepted offFits]
  rfl

theorem withoutTrailingNul_of_getLast? {text : String}
    (ends : text.toList.getLast? ≠ some '\x00') : withoutTrailingNul text = text := by
  rw [List.getLast?_eq_head?_reverse] at ends
  have kept : text.toList.reverse.dropWhile (· == '\x00') = text.toList.reverse := by
    cases reversed : text.toList.reverse with
    | nil => rfl
    | cons last rest =>
        have notNul : last ≠ '\x00' := by simpa [reversed] using ends
        simp [notNul]
  rw [withoutTrailingNul, kept, List.reverse_reverse, String.ofList_toList]

/-- Every picture of the display shows each pixel that is on in one value or colour and each other
in the other: the buffer of 2048 entries at 64 times its row plus its column, and the enlarged image
in a whole square. The packed words are those of the colours in the image, and two displays have the
same words only if they show the same pixels. -/
theorem renderings_agree (display : Display) :
    ((∀ (Value : Type) (on off : Value) (column : Fin 64) (row : Fin 32),
        (display.framebuffer on off)[64 * row.val + column.val]? =
          some (if display.lit column row then on else off)) ∧
      (∀ on off : Int, Int64.minValue.toInt ≤ on ∧ on ≤ Int64.maxValue.toInt →
        Int64.minValue.toInt ≤ off ∧ off ≤ Int64.maxValue.toInt →
          display.integerFramebuffer on off = .ok (display.framebuffer on off)) ∧
      ∀ on off : String, on.toList.getLast? ≠ some '\x00' → off.toList.getLast? ≠ some '\x00' →
        display.textFramebuffer on off = display.framebuffer on off) ∧
    (∀ (scale : Int) (on off : Rgb), 1 ≤ scale →
      ∃ image, display.render scale on.components off.components = .ok image ∧
        image.HasSize (32 * scale.toNat) (64 * scale.toNat) ∧
        ∀ (row column : Nat) (pixelColumn : Fin 64) (pixelRow : Fin 32),
          row / scale.toNat = pixelRow → column / scale.toNat = pixelColumn →
            image.pixel? row column =
              some (if display.lit pixelColumn pixelRow then on else off)) ∧
    (∀ scheme ∈ ColorScheme.all,
      ∃ words, display.xrgbNamed scheme.name = .ok words ∧
        ∀ (scale : Int) (image : Image), 1 ≤ scale →
          display.render scale scheme.on.components scheme.off.components = .ok image →
            ∀ (column : Fin 64) (row : Fin 32) (down across : Nat),
              down < scale → across < scale →
                ∃ color word,
                  image.pixel? (scale.toNat * row + down) (scale.toNat * column + across) =
                    some color ∧
                  words[64 * row.val + column.val]? = some word ∧
                  word.toNat =
                    65536 * color.red.toNat + 256 * color.green.toNat + color.blue.toNat) ∧
    ∀ scheme ∈ ColorScheme.all, ∀ other : Display,
      display.xrgbNamed scheme.name = other.xrgbNamed scheme.name ↔
        ∀ column row, display.lit column row = other.lit column row := by
  refine ⟨⟨?_, ?_, ?_⟩, ?_, ?_, ?_⟩
  · intro Value on off column row
    exact display.getElem?_framebuffer on off column row
  · intro on off onFits offFits
    exact display.integerFramebuffer_of_fits onFits offFits
  · intro on off onEnds offEnds
    rw [textFramebuffer, withoutTrailingNul_of_getLast? onEnds,
      withoutTrailingNul_of_getLast? offEnds]
  · intro scale on off positive
    refine ⟨_, display.render_components positive on off, ?_, ?_⟩
    · rw [Nat.mul_comm 32, Nat.mul_comm 64]
      exact (display.hasSize_picture on off).enlarge scale.toNat
    · intro row column pixelColumn pixelRow row_eq column_eq
      exact display.pixel?_image (by omega) on off row_eq column_eq
  · intro scheme known
    refine ⟨_, display.xrgbNamed_name known, ?_⟩
    intro scale image positive rendered column row down across down_lt across_lt
    rw [display.render_components positive, Except.ok.injEq] at rendered
    subst rendered
    have row_eq : (scale.toNat * row + down) / scale.toNat = row := block_div (by omega)
    have column_eq : (scale.toNat * column + across) / scale.toNat = column :=
      block_div (by omega)
    refine ⟨_, _, display.pixel?_image (by omega) _ _ row_eq column_eq,
      display.getElem?_framebuffer _ _ column row, ?_⟩
    split
    · exact scheme.on.toNat_pack
    · exact scheme.off.toNat_pack
  · intro scheme known other
    rw [display.xrgbNamed_name known, other.xrgbNamed_name known, Except.ok.injEq]
    exact framebuffer_eq_iff (ColorScheme.pack_on_ne_pack_off scheme known) display other

/-- One pixel in the third column and the second row is a square of sixteen points in an image four
times as large, and not where the axes would be exchanged. -/
theorem onePixel_renderings :
    let display := ofPixels (fun column row => decide (column.val = 2 ∧ row.val = 1)) false
    (⟨"sky", ⟨0x68, 0xBB, 0xED⟩, ⟨0x2C, 0x50, 0x66⟩⟩ ∈ ColorScheme.all ∧ (1 : Int) ≤ 4) ∧
      (display.integerFramebuffer 7 (-1) = .ok (display.framebuffer 7 (-1)) ∧
        display.textFramebuffer "#" "." = display.framebuffer "#" "." ∧
          (display.framebuffer "#" ".")[64 * 1 + 2]? = some "#") ∧
      (∃ image, display.render 4 [0x68, 0xBB, 0xED] [0x2C, 0x50, 0x66] = .ok image ∧
        image.HasSize 128 256 ∧ image.pixel? 7 8 = some ⟨0x68, 0xBB, 0xED⟩ ∧
          image.pixel? 8 7 = some ⟨0x2C, 0x50, 0x66⟩) ∧
      (∃ words word, display.xrgbNamed "sky" = .ok words ∧ words[64 * 1 + 2]? = some word ∧
        word.toNat = 0x68BBED) ∧
      display.xrgbNamed "sky" ≠ blank.xrgbNamed "sky" := by
  intro display
  let sky : ColorScheme := ⟨"sky", ⟨0x68, 0xBB, 0xED⟩, ⟨0x2C, 0x50, 0x66⟩⟩
  have known : sky ∈ ColorScheme.all := by decide
  rcases renderings_agree display with ⟨⟨entries, integers, texts⟩, images, packed, separate⟩
  rcases images 4 sky.on sky.off (by decide) with ⟨image, rendered, size, pixel⟩
  rcases packed sky known with ⟨words, named, entry⟩
  have on : display.lit 2 1 = true := by simp [display]
  have off : display.lit 1 2 = false := by simp [display]
  have inside := pixel 7 8 2 1 rfl rfl
  have swapped := pixel 8 7 1 2 rfl rfl
  rw [on, if_pos rfl] at inside
  rw [off, if_neg Bool.false_ne_true] at swapped
  rcases entry 4 image (by decide) rendered 2 1 3 0 (by decide) (by decide) with
    ⟨color, word, shown, found, word_eq⟩
  obtain rfl : sky.on = color := Option.some.inj (inside.symm.trans shown)
  have value : 65536 * sky.on.red.toNat + 256 * sky.on.green.toNat + sky.on.blue.toNat =
      0x68BBED := by decide
  have number := integers 7 (-1) (by decide) (by decide)
  have text := texts "#" "." (by decide) (by decide)
  have litText := entries String "#" "." 2 1
  rw [on, if_pos rfl] at litText
  refine ⟨⟨known, by decide⟩, ⟨number, text, litText⟩, ⟨image, rendered, size, inside, swapped⟩,
    ⟨words, word, named, found, word_eq.trans value⟩, ?_⟩
  intro equal
  have dark := (separate sky known blank).mp equal 2 1
  simp [on, blank] at dark

end Display

end Chip8
