import Mathlib.Data.List.Basic
import Mathlib.Data.Nat.SuccPred
import Mathlib.Data.Prod.Lex
import Mathlib.Data.Set.Function
import Mathlib.Order.Interval.Set.Monotone
import XsdInfer.Proofs.Name.Pool
import XsdInfer.Proofs.Text.Cut
import XsdInfer.Text.Location

/-!
# Locations told from bytes

The location of an offset is found by two scans of the bytes before it: one counts the line feeds, the
other looks for the last of them (`Location.ofBytes`, `ofOffset_eq`). One byte more moves it on
(`ofBytes_concat`), so that locations grow with the offset. Main statement: the offset can be computed
back from the line and the column (`ofOffset_invertible`).
-/

namespace XsdInfer.Text

variable {b : UInt8} {l : Location} {s t : List UInt8}

/-- The byte of a line feed. -/
def lineFeed : UInt8 :=
  10

/-- The bytes of a text. -/
def utf8Bytes (text : String) : List UInt8 :=
  text.toUTF8.data.toList

/-- The offsets at which lines begin: the first one with the text, any other one just behind a line feed. -/
def lineStarts (s : List UInt8) : List Nat :=
  0 :: (s.idxsOf lineFeed).map (· + 1)

namespace Location

/-- The location behind some bytes, by two scans: the line is told from the number of line feeds, and the
column from the place of the last one. -/
def ofBytes (s : List UInt8) : Location where
  line := s.count lineFeed + 1
  column :=
    match (s.idxsOf lineFeed).getLast? with
    | some last => s.length - last
    | none => s.length + 1

/-- The location behind one more byte. -/
def pass (l : Location) (b : UInt8) : Location :=
  if b = lineFeed then ⟨l.line + 1, 1⟩ else ⟨l.line, l.column + 1⟩

/-- Locations are ordered by their lines and, on one line, by their columns. -/
def key (l : Location) : Nat ×ₗ Nat :=
  toLex (l.line, l.column)

/-- A location is that of an offset in some bytes. -/
structure PointsTo (l : Location) (s : List UInt8) (offset : Nat) : Prop where
  line_pos : 1 ≤ l.line
  column_pos : 1 ≤ l.column
  /-- There is such a line, and the column counts the bytes from its start. -/
  exists_start : ∃ start, (lineStarts s)[l.line - 1]? = some start ∧ offset = start + (l.column - 1)
  /-- The next line, if there is one, begins behind the offset. -/
  lt_next : ∀ next ∈ (lineStarts s)[l.line]?, offset < next

/-! ## Scans of bytes -/

/-- The last line feed is in the text. -/
lemma lt_length_of_getLast? {last : Nat} (h : (s.idxsOf lineFeed).getLast? = some last) :
    last < s.length :=
  List.lt_add_of_mem_idxsOf last (List.mem_of_getLast? h)

/-- One byte more moves the location on. -/
lemma ofBytes_concat (s : List UInt8) (b : UInt8) : ofBytes (s ++ [b]) = (ofBytes s).pass b := by
  by_cases h : b = lineFeed
  · subst h
    simp [ofBytes, pass, List.idxsOf_append]
  · have same : (s ++ [b]).idxsOf lineFeed = s.idxsOf lineFeed := by simp [List.idxsOf_append, h]
    have lines : (s ++ [b]).count lineFeed = s.count lineFeed := by simp [h]
    rw [pass, if_neg h, ofBytes, same, lines, List.length_append, List.length_singleton, ofBytes]
    cases found : (s.idxsOf lineFeed).getLast? with
    | none => rfl
    | some last =>
      have inside := lt_length_of_getLast? found
      exact congrArg (mk _) (Nat.succ_sub (Nat.le_of_lt inside))

/-- The location behind two texts is reached from the one behind the first. -/
lemma ofBytes_append (s t : List UInt8) : ofBytes (s ++ t) = t.foldl pass (ofBytes s) := by
  induction t generalizing s with
  | nil => rw [List.append_nil, List.foldl_nil]
  | cons b t ih => rw [List.append_cons, ih, ofBytes_concat, List.foldl_cons]

/-- Bytes without a line feed move the column. -/
lemma foldl_pass_of_plain (h : lineFeed ∉ s) : s.foldl pass l = ⟨l.line, l.column + s.length⟩ := by
  induction s generalizing l with
  | nil => rfl
  | cons b s ih =>
    obtain ⟨other, others⟩ := List.ne_and_not_mem_of_not_mem_cons h
    rw [List.foldl_cons, pass, if_neg (Ne.symm other), ih others, List.length_cons]
    exact congrArg (mk _) (Nat.succ_add_eq_add_succ _ _)

/-! ## From characters to bytes -/

/-- A number that is not that of the line feed is another byte. -/
lemma lineFeed_ne_ofNat {n : Nat} (h : n % 256 ≠ 10) : lineFeed ≠ UInt8.ofNat n := by
  intro same
  have numbers := congrArg UInt8.toNat same
  rw [UInt8.toNat_ofNat'] at numbers
  exact h numbers.symm

/-- No byte of a character other than the line feed is that of a line feed: longer characters have only
bytes above those of ASCII. -/
lemma lineFeed_not_mem {c : Char} (h : c ≠ '\n') : lineFeed ∉ String.utf8EncodeChar c := by
  have number : c.val.toNat ≠ 10 := fun same => h (Char.ext (UInt32.toNat_inj.mp same))
  unfold String.utf8EncodeChar
  dsimp only
  split_ifs
  all_goals simp only [List.mem_cons, List.not_mem_nil, or_false, not_or]
  · exact lineFeed_ne_ofNat (by omega)
  · exact ⟨lineFeed_ne_ofNat (by omega), lineFeed_ne_ofNat (by omega)⟩
  · exact ⟨lineFeed_ne_ofNat (by omega), lineFeed_ne_ofNat (by omega), lineFeed_ne_ofNat (by omega)⟩
  · exact ⟨lineFeed_ne_ofNat (by omega), lineFeed_ne_ofNat (by omega), lineFeed_ne_ofNat (by omega),
      lineFeed_ne_ofNat (by omega)⟩

/-- Passing the bytes of a character is passing the character. -/
lemma foldl_pass_char (l : Location) (c : Char) :
    (String.utf8EncodeChar c).foldl pass l = l.advance c := by
  unfold advance
  split
  next line =>
    subst line
    rfl
  next other => rw [foldl_pass_of_plain (lineFeed_not_mem other), String.length_utf8EncodeChar]

/-- The walk along the characters is a walk along the bytes. -/
lemma walk_eq (l : Location) (s : List Char) (offset : Nat) :
    l.walk s offset = ((s.flatMap String.utf8EncodeChar).take offset).foldl pass l := by
  induction s generalizing l offset with
  | nil => rw [walk, List.flatMap_nil, List.take_nil, List.foldl_nil]
  | cons c s ih =>
    have size := String.length_utf8EncodeChar c
    rw [walk, List.flatMap_cons, List.take_append, List.foldl_append, size]
    -- A character is passed in one step and its bytes one by one; an offset inside of it passes some of
    -- them, none of which ends a line.
    split
    next behind =>
      rw [List.take_of_length_le (by rwa [size]), foldl_pass_char, ih]
    next inside =>
      have none : offset - c.utf8Size = 0 := by omega
      have plain : lineFeed ∉ (String.utf8EncodeChar c).take offset := by
        by_cases line : c = '\n'
        · subst line
          obtain rfl : offset = 0 := Nat.lt_one_iff.mp (Nat.lt_of_not_le inside)
          exact List.not_mem_nil
        · exact fun mem => lineFeed_not_mem line (List.mem_of_mem_take mem)
      rw [none, List.take_zero, List.foldl_nil, foldl_pass_of_plain plain, List.length_take, size,
        Nat.min_eq_left (Nat.le_of_not_le inside)]

/-- The bytes of a text are those of its characters in a row. -/
lemma utf8Bytes_eq (text : String) : utf8Bytes text = text.toList.flatMap String.utf8EncodeChar := by
  have whole : text.toByteArray = text.toList.utf8Encode := by
    rw [← String.toByteArray_ofList, String.ofList_toList]
  rw [utf8Bytes, String.toUTF8, whole, List.utf8Encode, List.data_toByteArray]

/-- A text has as many bytes as its size says. -/
lemma length_utf8Bytes (text : String) : (utf8Bytes text).length = text.utf8ByteSize := rfl

/-- The location of an offset is found by scans of the bytes before it. -/
theorem ofOffset_eq (text : String) (offset : Nat) :
    ofOffset text.toList offset = ofBytes ((utf8Bytes text).take offset) := by
  have start : Location.start = ofBytes [] := rfl
  rw [ofOffset, walk_eq, ← utf8Bytes_eq, start, ← ofBytes_append, List.nil_append]

/-! ## The start of the line -/

/-- The starts of the lines of two texts in a row are those of both, counted on. -/
lemma lineStarts_append (s t : List UInt8) :
    lineStarts (s ++ t) = lineStarts s ++ (t.idxsOf lineFeed s.length).map (· + 1) := by
  rw [lineStarts, List.idxsOf_append, List.map_append, Nat.zero_add, lineStarts, List.cons_append]

/-- There are as many starts of lines as lines. -/
lemma length_lineStarts (s : List UInt8) : (lineStarts s).length = (ofBytes s).line := by
  rw [lineStarts, List.length_cons, List.length_map, List.length_idxsOf, ofBytes]

/-- The column behind some bytes counts them from the last of the lines that begin in them. -/
lemma exists_lastStart (s : List UInt8) : ∃ start, (lineStarts s).getLast? = some start ∧
    s.length = start + ((ofBytes s).column - 1) ∧ 1 ≤ (ofBytes s).column := by
  cases found : (s.idxsOf lineFeed).getLast? with
  | none =>
    have column : (ofBytes s).column = s.length + 1 := by rw [ofBytes, found]
    refine ⟨0, ?_, by omega, by omega⟩
    rw [lineStarts, List.getLast?_eq_none_iff.mp found, List.map_nil, List.getLast?_singleton]
  | some last =>
    have column : (ofBytes s).column = s.length - last := by rw [ofBytes, found]
    have inside := lt_length_of_getLast? found
    refine ⟨last + 1, ?_, by omega, by omega⟩
    rw [lineStarts, List.getLast?_cons, List.getLast?_map, found, Option.map_some, Option.getD_some]

/-- The location behind some bytes is that of the offset, whatever bytes follow. -/
lemma pointsTo_ofBytes (s t : List UInt8) : (ofBytes s).PointsTo (s ++ t) s.length := by
  obtain ⟨start, last, offset, column⟩ := exists_lastStart s
  have lines := length_lineStarts s
  constructor
  case line_pos => exact Nat.le_add_left 1 _
  case column_pos => exact column
  case exists_start =>
    refine ⟨start, ?_, offset⟩
    rw [List.getLast?_eq_getElem?, lines] at last
    have inside : (ofBytes s).line - 1 < (lineStarts s).length := by
      rw [lines]
      exact Nat.sub_one_lt_of_lt (Nat.succ_pos _)
    rw [lineStarts_append, List.getElem?_append_left inside, last]
  case lt_next =>
    intro next found
    rw [lineStarts_append, List.getElem?_append_right (by omega)] at found
    obtain ⟨place, mem, rfl⟩ := List.mem_map.mp (List.mem_of_getElem? found)
    exact Nat.lt_succ_of_le (List.ge_of_mem_idxsOf place mem)

/-! ## The order of locations -/

/-- A location goes up with every byte. -/
lemma key_lt_key_pass (l : Location) (b : UInt8) : l.key < (l.pass b).key := by
  rw [key, key, Prod.Lex.toLex_lt_toLex, pass]
  split
  next => exact .inl (Nat.lt_succ_self _)
  next => exact .inr ⟨rfl, Nat.lt_succ_self _⟩

/-- Within a text, locations grow with the offset. -/
lemma strictMonoOn_key (s : List UInt8) :
    StrictMonoOn (fun n => (ofBytes (s.take n)).key) (Set.Iic s.length) := by
  apply strictMonoOn_Iic_of_lt_succ
  intro n less
  rw [Nat.succ_eq_succ, ← List.take_append_getElem less, ofBytes_concat]
  exact key_lt_key_pass _ _

/-- What is written for a location is cut apart at its colon. -/
lemma cutAt_text (l : Location) :
    cutAt ':' l.text.toList = some ((toString l.line).toList, (toString l.column).toList) := by
  have plain : ':' ∉ (toString l.line).toList := by
    intro mem
    have digit := Name.Pool.isDigit_of_mem_toString _ mem
    exact absurd digit (by decide)
  have colon : ":".toList = [':'] := rfl
  rw [text, String.toList_append, String.toList_append, colon, List.append_assoc]
  exact cutAt_append plain _

/-- Different locations are printed differently. -/
lemma text_injective : Function.Injective text := by
  intro l l' same
  have parts := cutAt_text l
  rw [same, cutAt_text l'] at parts
  obtain ⟨lines, columns⟩ := Prod.mk.inj (Option.some.inj parts)
  have line := Name.Pool.toString_injective (String.toList_inj.mp lines)
  have column := Name.Pool.toString_injective (String.toList_inj.mp columns)
  cases l
  cases l'
  exact congrArg₂ mk line.symm column.symm

/-- The offset can be computed back from its location: an offset inside of a text is that of the start of
the line and the bytes before the column, the next line begins behind it, and it has a location of its own,
which is the later the greater the offset is; an offset beyond the text has the location of the end. -/
theorem ofOffset_invertible (text : String) :
    (∀ offset, (ofOffset text.toList offset).PointsTo (utf8Bytes text) (min offset text.utf8ByteSize)) ∧
      StrictMonoOn (fun offset => (ofOffset text.toList offset).key) (Set.Iic text.utf8ByteSize) ∧
      Set.InjOn (fun offset => (ofOffset text.toList offset).text) (Set.Iic text.utf8ByteSize) ∧
      ∀ offset ≥ text.utf8ByteSize,
        ofOffset text.toList offset = ofOffset text.toList text.utf8ByteSize := by
  have size := length_utf8Bytes text
  have grows : StrictMonoOn (fun offset => (ofOffset text.toList offset).key)
      (Set.Iic text.utf8ByteSize) := by
    simp only [ofOffset_eq]
    exact strictMonoOn_key (utf8Bytes text)
  refine ⟨fun offset => ?_, grows, fun m m_le n n_le same => ?_, fun offset beyond => ?_⟩
  · have points := pointsTo_ofBytes ((utf8Bytes text).take offset) ((utf8Bytes text).drop offset)
    rwa [List.take_append_drop, List.length_take, size, ← ofOffset_eq] at points
  · exact grows.injOn m_le n_le (congrArg key (text_injective same))
  · have whole {n : Nat} (le : text.utf8ByteSize ≤ n) : (utf8Bytes text).take n = utf8Bytes text :=
      List.take_of_length_le le
    rw [ofOffset_eq, ofOffset_eq, whole beyond, whole (Nat.le_refl _)]

/-- The fifth byte of a text is in the middle of a character on its third line, behind an empty line. -/
theorem ofOffset_invertible_inside :
    ofOffset "a\n\né\nb".toList 4 = ⟨3, 2⟩ ∧ lineStarts (utf8Bytes "a\n\né\nb") = [0, 2, 3, 6] ∧
      (⟨3, 2⟩ : Location).PointsTo (utf8Bytes "a\n\né\nb") 4 ∧
      (ofOffset "a\n\né\nb".toList 4).text ≠ (ofOffset "a\n\né\nb".toList 5).text ∧
      ofOffset "a\n\né\nb".toList 99 = ofOffset "a\n\né\nb".toList 7 := by
  obtain ⟨points, _, different, beyond⟩ := ofOffset_invertible "a\n\né\nb"
  refine ⟨by decide, by decide, ?_, fun same => ?_, ?_⟩
  · exact points 4
  · have : (4 : Nat) = 5 := different (by decide) (by decide) same
    omega
  · exact beyond 99 (by decide)

end Location

end XsdInfer.Text
