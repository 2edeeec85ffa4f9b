import Mathlib.Data.List.TakeWhile
import MicroDevice.Proofs.Text.Encoding
import MicroDevice.Simulation.Library

/-! # Names in string tables

A table of texts with their zero bytes is divided into just these texts, and where it has a name
up to a zero byte that name is found (`name?_of_namedAt`).
-/

namespace MicroDevice.Object

@[simp] theorem zeroEnded_nil : zeroEnded [] = [] := rfl

@[simp] theorem zeroEnded_cons (text : String) (later : List String) :
    zeroEnded (text :: later) = Text.encode text ++ 0 :: zeroEnded later := by
  unfold zeroEnded
  rw [List.flatMap_cons, List.append_assoc]
  rfl

theorem zeroEnded_append (earlier later : List String) :
    zeroEnded (earlier ++ later) = zeroEnded earlier ++ zeroEnded later :=
  List.flatMap_append

/-! ## Where a name is -/

/-- A text without a zero is read up to the zero after it. -/
theorem takeWhile_append_zero {bytes : Bytes} (whole : 0 ∉ bytes) (rest : Bytes) :
    (bytes ++ 0 :: rest).takeWhile (· ≠ 0) = bytes := by
  rw [List.takeWhile_append_of_pos]
  · simp
  · intro byte member
    exact decide_eq_true fun zero => whole (zero ▸ member)

/-- What stands before the first zero byte. -/
theorem before_zero_inj {first second rest other : Bytes} (whole : 0 ∉ first)
    (alsoWhole : 0 ∉ second) (same : first ++ 0 :: rest = second ++ 0 :: other) :
    first = second := by
  rw [← takeWhile_append_zero whole rest, same, takeWhile_append_zero alsoWhole]

/-- A name that begins within a text, each with a zero byte after it, is the end of the text. -/
theorem drop_encode_eq {text name : String} (whole : '\x00' ∉ text.toList)
    (nameWhole : '\x00' ∉ name.toList) {before cut after later : Bytes}
    (split : Text.encode text = before ++ cut)
    (ends : Text.encode name ++ 0 :: after = cut ++ 0 :: later) :
    (Text.encode text).drop before.length = Text.encode name := by
  have textWhole := Text.zero_not_mem_encode whole
  rw [split] at textWhole
  rw [split, List.drop_left]
  refine (before_zero_inj (Text.zero_not_mem_encode nameWhole) ?_ ends).symm
  exact fun zero => textWhole (List.mem_append_right _ zero)

/-- A name of a table is the end of one of its texts. -/
theorem exists_text_of_namedAt {texts : List String} (whole : ∀ text ∈ texts, '\x00' ∉ text.toList)
    {name : String} (nameWhole : '\x00' ∉ name.toList) {offset : Nat}
    (named : NamedAt (zeroEnded texts) offset name) :
    ∃ earlier text later cut, texts = earlier ++ text :: later ∧
      offset = (zeroEnded earlier).length + cut ∧ cut ≤ (Text.encode text).length ∧
      (Text.encode text).drop cut = Text.encode name := by
  induction texts generalizing offset with
  | nil =>
      obtain ⟨before, after, same, -⟩ := named
      simp at same
  | cons text later ih =>
      obtain ⟨first, others⟩ := List.forall_mem_cons.mp whole
      obtain ⟨before, after, same, rfl⟩ := named
      rw [zeroEnded_cons, List.append_assoc] at same
      have here : ∀ cut, Text.encode text = before ++ cut →
          Text.encode name ++ 0 :: after = cut ++ 0 :: zeroEnded later →
          ∃ earlier found rest place, text :: later = earlier ++ found :: rest ∧
            before.length = (zeroEnded earlier).length + place ∧
            place ≤ (Text.encode found).length ∧
            (Text.encode found).drop place = Text.encode name := by
        intro cut split ends
        refine ⟨[], text, later, before.length, rfl, (Nat.zero_add _).symm, ?_,
          drop_encode_eq first nameWhole split ends⟩
        rw [split, List.length_append]
        exact Nat.le_add_right _ _
      rcases List.append_eq_append_iff.mp same with ⟨middle, rfl, ends⟩ | ⟨cut, split, ends⟩
      · rcases List.cons_eq_append_iff.mp ends with ⟨rfl, starts⟩ | ⟨before, rfl, rest⟩
        · exact here [] (by simp) starts
        · -- the name begins after the zero byte of this text
          rw [← List.append_assoc] at rest
          obtain ⟨earlier, found, last, place, rfl, located, inside, same⟩ :=
            ih others ⟨before, after, rest, rfl⟩
          refine ⟨text :: earlier, found, last, place, rfl, ?_, inside, same⟩
          rw [zeroEnded_cons]
          simp only [List.length_append, List.length_cons]
          omega
      · exact here cut split ends

/-! ## Finding a name -/

/-- Texts with the offsets they begin at when they follow one another, each with its zero
byte. -/
def placedFrom : (start : Nat) → List String → StringTable
  | _, [] => []
  | start, text :: later =>
      (start, Text.encode text) :: placedFrom (start + (Text.encode text).length + 1) later

namespace StringTable

/-- Bytes without a zero are divided off at the zero after them. -/
theorem divideFrom_encode {bytes : Bytes} (whole : 0 ∉ bytes) (start : Nat) (text rest : Bytes) :
    divideFrom start text (bytes ++ 0 :: rest) =
      (start, text.reverse ++ bytes) ::
        divideFrom (start + (text.length + bytes.length) + 1) [] rest := by
  induction bytes generalizing text with
  | nil =>
      rw [List.nil_append, divideFrom, if_pos rfl, List.append_nil]
      rfl
  | cons byte later ih =>
      have notZero : byte ≠ 0 := fun zero => whole (zero ▸ List.mem_cons_self)
      rw [List.cons_append, divideFrom, if_neg notZero,
        ih fun zero => whole (List.mem_cons_of_mem _ zero)]
      simp only [List.reverse_cons, List.append_assoc, List.singleton_append, List.length_cons]
      congr 2
      omega

/-- A table of zero-ended texts is divided into these texts at their offsets. -/
theorem divideFrom_zeroEnded {texts : List String}
    (whole : ∀ text ∈ texts, '\x00' ∉ text.toList) (start : Nat) :
    divideFrom start [] (zeroEnded texts) = placedFrom start texts := by
  induction texts generalizing start with
  | nil => rfl
  | cons text later ih =>
      obtain ⟨first, others⟩ := List.forall_mem_cons.mp whole
      rw [zeroEnded_cons, divideFrom_encode (Text.zero_not_mem_encode first), ih others,
        placedFrom]
      simp

/-- A table of zero-ended texts is read back as its texts at their offsets. -/
theorem ofBytes?_zeroEnded {texts : List String}
    (whole : ∀ text ∈ texts, '\x00' ∉ text.toList) :
    ofBytes? (zeroEnded texts) = some (placedFrom 0 texts) := by
  have readable : ∀ start, (placedFrom start texts).all fun entry =>
      (Text.decode? entry.2).isSome := by
    clear whole
    induction texts with
    | nil => exact fun _ => rfl
    | cons text later ih =>
        intro start
        rw [placedFrom, List.all_cons, Text.decode?_encode, ih]
        rfl
  rw [ofBytes?, divideFrom_zeroEnded whole]
  exact if_pos (readable 0)

theorem placedFrom_append (start : Nat) (earlier later : List String) :
    placedFrom start (earlier ++ later) =
      placedFrom start earlier ++ placedFrom (start + (zeroEnded earlier).length) later := by
  induction earlier generalizing start with
  | nil => rfl
  | cons text rest ih =>
      rw [List.cons_append, placedFrom, ih, placedFrom, List.cons_append, zeroEnded_cons]
      congr 3
      simp only [List.length_append, List.length_cons]
      omega

/-- Every text is placed within the table. -/
theorem le_of_mem_placedFrom {start : Nat} {texts : List String} {entry : Nat × Bytes}
    (member : entry ∈ placedFrom start texts) :
    start ≤ entry.1 ∧ entry.1 < start + (zeroEnded texts).length := by
  induction texts generalizing start with
  | nil => cases member
  | cons text later ih =>
      rw [zeroEnded_cons, List.length_append, List.length_cons]
      rcases List.mem_cons.mp member with rfl | isLater
      · dsimp only
        omega
      · have bounds := ih isLater
        omega

/-- What is found at an offset is the rest of the text there. -/
theorem name?_placedFrom (earlier later : List String) (text : String) {cut : Nat}
    (inside : cut ≤ (Text.encode text).length) :
    name? (placedFrom 0 (earlier ++ text :: later)) ((zeroEnded earlier).length + cut) =
      Text.decode? ((Text.encode text).drop cut) := by
  have begun : (placedFrom 0 (earlier ++ text :: later)).takeWhile
      (fun entry => entry.1 ≤ (zeroEnded earlier).length + cut) =
        placedFrom 0 earlier ++ [((zeroEnded earlier).length, Text.encode text)] := by
    have ended : (placedFrom ((zeroEnded earlier).length + (Text.encode text).length + 1)
        later).takeWhile (fun entry => entry.1 ≤ (zeroEnded earlier).length + cut) = [] := by
      apply List.takeWhile_eq_nil_iff.mpr
      intro filled
      have bounds := le_of_mem_placedFrom (List.get_mem _ ⟨0, filled⟩)
      simp only [decide_eq_true_eq]
      omega
    rw [placedFrom_append, List.takeWhile_append_of_pos, Nat.zero_add, placedFrom,
      List.takeWhile_cons_of_pos, ended]
    · exact decide_eq_true (Nat.le_add_right _ _)
    · intro entry member
      have bounds := le_of_mem_placedFrom member
      simp only [decide_eq_true_eq]
      omega
  rw [name?, begun, List.getLast?_concat]
  dsimp only
  rw [Nat.add_sub_cancel_left, if_pos inside]

end StringTable

/-- A name that a table has is found. -/
theorem name?_of_namedAt {texts : List String} (whole : ∀ text ∈ texts, '\x00' ∉ text.toList)
    {name : String} (nameWhole : '\x00' ∉ name.toList) {offset : Nat}
    (named : NamedAt (zeroEnded texts) offset name) :
    StringTable.name? (placedFrom 0 texts) offset = some name := by
  obtain ⟨earlier, text, later, cut, rfl, rfl, inside, same⟩ :=
    exists_text_of_namedAt whole nameWhole named
  rw [StringTable.name?_placedFrom _ _ _ inside, same, Text.decode?_encode]

end MicroDevice.Object
