import Mathlib.Data.List.TakeWhile
import PageMerge.Data.Load
import PageMerge.Proofs.Text.Utf8

/-!
# Trimmed fields

Trimming takes nothing away but blanks at the two ends, and takes nothing away from a text that was
trimmed before. The bytes of a trimmed text do not start or end with a blank of ASCII, so a field
that holds them is left as it is before it is decoded. A field that is trimmed before it is decoded
is text exactly if it is text as it stands, and this makes no difference to the trimmed text.

## Main results

* `exists_trimWith`: what trimming takes away
* `trimWith_flatMap`: parts that lie within the class, or outside of it, are trimmed one by one
* `trimWith_encode_trim`: the bytes of a trimmed text
* `exists_encode_trim`: what trimming takes away from the bytes of a text
* `decode_trimWith`, `exists_decode_of_trimWith`: fields that are trimmed before they are decoded
-/

namespace PageMerge.Text

/-! ### Lists -/

section Lists

variable {α : Type} (p : α → Bool) (l : List α)

/-- Trimming takes elements of the class away at both ends. -/
theorem exists_trimWith : ∃ before after, l = before ++ trimWith p l ++ after ∧
    (∀ a ∈ before, p a = true) ∧ ∀ a ∈ after, p a = true := by
  have hback := List.takeWhile_append_dropWhile (p := p) (l := (l.dropWhile p).reverse)
  refine ⟨l.takeWhile p, ((l.dropWhile p).reverse.takeWhile p).reverse, ?_, ?_, ?_⟩
  · rw [trimWith, List.append_assoc, ← List.reverse_append, hback, List.reverse_reverse,
      List.takeWhile_append_dropWhile]
  · exact fun a ha => List.mem_takeWhile_imp ha
  · exact fun a ha => List.mem_takeWhile_imp (List.mem_reverse.mp ha)

/-- A trimmed list does not end with an element of the class. -/
theorem getLast?_trimWith : ∀ a ∈ (trimWith p l).getLast?, p a = false := by
  intro a ha
  rw [trimWith, List.getLast?_reverse] at ha
  have hhead := List.head?_dropWhile_not p (l.dropWhile p).reverse
  rw [Option.mem_def.mp ha] at hhead
  simpa using hhead

/-- A trimmed list does not start with an element of the class. -/
theorem head?_trimWith : ∀ a ∈ (trimWith p l).head?, p a = false := by
  intro a ha
  have hprefix : trimWith p l <+: l.dropWhile p := by
    rw [trimWith, ← List.reverse_suffix, List.reverse_reverse]
    exact List.dropWhile_suffix p
  obtain ⟨rest, hrest⟩ := hprefix
  have hhead := List.head?_dropWhile_not p l
  rw [← hrest, List.head?_append, Option.mem_def.mp ha] at hhead
  simpa using hhead

theorem trimWith_trimWith : trimWith p (trimWith p l) = trimWith p l :=
  trimWith_eq_self (head?_trimWith p l) (getLast?_trimWith p l)

variable {p l}

/-- Elements of the class around a list are taken away. -/
theorem trimWith_append_append {before after : List α} (hbefore : ∀ a ∈ before, p a = true)
    (hafter : ∀ a ∈ after, p a = true) :
    trimWith p (before ++ l ++ after) = trimWith p l := by
  have hback : ∀ m : List α, ((m ++ after).reverse.dropWhile p) = m.reverse.dropWhile p := by
    intro m
    rw [List.reverse_append,
      List.dropWhile_append_of_pos fun a ha => hafter a (List.mem_reverse.mp ha)]
  rw [trimWith, trimWith, List.append_assoc, List.dropWhile_append_of_pos hbefore,
    List.dropWhile_append]
  split
  · -- Nothing is left of the list, nor of what stands after it.
    rename_i hnil
    rw [List.isEmpty_iff.mp hnil, List.dropWhile_eq_nil_iff.mpr hafter]
  · rw [hback]

/-- What was trimmed of a smaller class before is trimmed to the same. -/
theorem trimWith_trimWith_of_imp {q : α → Bool} (h : ∀ a, q a = true → p a = true) :
    trimWith p (trimWith q l) = trimWith p l := by
  obtain ⟨before, after, hsplit, hbefore, hafter⟩ := exists_trimWith q l
  conv_rhs => rw [hsplit]
  exact (trimWith_append_append (fun a ha => h a (hbefore a ha))
    fun a ha => h a (hafter a ha)).symm

/-- Parts that lie wholly within the class or wholly outside of it are trimmed one by one. -/
theorem trimWith_flatMap {β : Type} {f : α → List β} {q : β → Bool} (hne : ∀ a, f a ≠ [])
    (hwithin : ∀ a, p a = true → ∀ b ∈ f a, q b = true)
    (hout : ∀ a, p a = false → ∀ b ∈ f a, q b = false) :
    trimWith q (l.flatMap f) = (trimWith p l).flatMap f := by
  have hdrop : ∀ (g : α → List β), (∀ a, g a ≠ []) → (∀ a, ∀ b ∈ g a, b ∈ f a) →
      ∀ m : List α, (m.flatMap g).dropWhile q = (m.dropWhile p).flatMap g := by
    intro g hg hsub m
    induction m with
    | nil => rfl
    | cons a m ih =>
      rw [List.flatMap_cons]
      cases ha : p a with
      | true =>
        rw [List.dropWhile_cons_of_pos ha, ← ih,
          List.dropWhile_append_of_pos fun b hb => hwithin a ha b (hsub a b hb)]
      | false =>
        obtain ⟨b, rest, hb⟩ := List.exists_cons_of_ne_nil (hg a)
        have hfirst : q b = false := hout a ha b (hsub a b (hb ▸ List.mem_cons_self ..))
        rw [List.dropWhile_cons_of_neg (by simp [ha]), List.flatMap_cons, hb, List.cons_append,
          List.dropWhile_cons_of_neg (by simp [hfirst])]
  have htwice : List.reverse ∘ List.reverse ∘ f = f := by
    funext a
    exact List.reverse_reverse (f a)
  -- At the other end, parts are read backwards, and so is each of them.
  rw [trimWith, hdrop f hne fun _ _ hb => hb, List.reverse_flatMap,
    hdrop (List.reverse ∘ f) (fun a => by simpa using hne a) fun _ _ hb => List.mem_reverse.mp hb,
    List.reverse_flatMap, trimWith, htwice]

end Lists

/-! ### Texts -/

theorem trim_trim (s : String) : trim (trim s) = trim s := by
  rw [trim, toList_trim, trimWith_trimWith, ← trim]

/-- A blank byte is a blank character of its own. -/
theorem isBlank_of_isBlankByte {b : UInt8} (h : Data.isBlankByte b = true) :
    b.toNat < 0x80 ∧ isBlank (Char.ofNat b.toNat) = true := by
  simp only [Data.isBlankByte, Bool.or_eq_true, beq_iff_eq] at h
  rcases h with (((rfl | rfl) | rfl) | rfl) | rfl <;> decide

/-- Blank bytes are the bytes of blank characters. -/
theorem exists_chars_of_isBlankByte {bs : Bytes} (h : ∀ b ∈ bs, Data.isBlankByte b = true) :
    ∃ chars : List Char, bs = chars.flatMap String.utf8EncodeChar := by
  have hchar : ∀ b ∈ bs, String.utf8EncodeChar (Char.ofNat b.toNat) = [b] := by
    intro b hb
    have hblank := h b hb
    simp only [Data.isBlankByte, Bool.or_eq_true, beq_iff_eq] at hblank
    rcases hblank with (((rfl | rfl) | rfl) | rfl) | rfl <;> decide
  refine ⟨bs.map fun b => Char.ofNat b.toNat, ?_⟩
  rw [List.flatMap_map, List.flatMap_def, List.map_congr_left hchar, ← List.flatMap_def,
    List.flatMap_singleton']

/-- A character whose bytes hold a blank one is blank. -/
theorem isBlank_of_mem {b : UInt8} {c : Char} (hb : Data.isBlankByte b = true)
    (h : b ∈ String.utf8EncodeChar c) : isBlank c = true := by
  obtain ⟨hascii, hblank⟩ := isBlank_of_isBlankByte hb
  rw [(Utf8.eq_of_ascii_mem hascii h).1]
  exact hblank

/-- The bytes of a text that does not start or end with a blank do neither. -/
theorem trimWith_encode {s : String} (hfirst : ∀ c ∈ s.toList.head?, isBlank c = false)
    (hlast : ∀ c ∈ s.toList.getLast?, isBlank c = false) :
    trimWith Data.isBlankByte (Utf8.encode s) = Utf8.encode s := by
  have hbyte : ∀ {b : UInt8} {c : Char}, b ∈ String.utf8EncodeChar c → isBlank c = false →
      Data.isBlankByte b = false := by
    intro b c hmem hc
    by_contra hb
    rw [isBlank_of_mem (by simpa using hb) hmem] at hc
    cases hc
  rw [Utf8.encode]
  generalize s.toList = chars at hfirst hlast
  apply trimWith_eq_self
  · cases chars with
    | nil => simp
    | cons c rest =>
      intro b hb
      obtain ⟨a, more, hbytes⟩ := List.exists_cons_of_ne_nil (Utf8.utf8EncodeChar_ne_nil c)
      rw [List.flatMap_cons, hbytes, List.cons_append, List.head?_cons, Option.mem_some] at hb
      refine hbyte ?_ (hfirst c rfl)
      rw [hbytes, ← hb]
      exact List.mem_cons_self ..
  · rcases List.eq_nil_or_concat chars with rfl | ⟨rest, c, rfl⟩
    · simp
    · intro b hb
      rw [List.concat_eq_append, List.flatMap_append, List.flatMap_singleton,
        List.getLast?_append] at hb
      cases hend : (String.utf8EncodeChar c).getLast? with
      | none => exact absurd (List.getLast?_eq_none_iff.mp hend) (Utf8.utf8EncodeChar_ne_nil c)
      | some a =>
        rw [hend, Option.some_or, Option.mem_some] at hb
        refine hbyte ?_ (hlast c (by simp))
        rw [← hb]
        exact List.mem_of_getLast? hend

/-- The bytes of a trimmed text are left as they are when they are trimmed. -/
theorem trimWith_encode_trim (s : String) :
    trimWith Data.isBlankByte (Utf8.encode (trim s)) = Utf8.encode (trim s) := by
  apply trimWith_encode
  · rw [toList_trim]
    exact head?_trimWith isBlank s.toList
  · rw [toList_trim]
    exact getLast?_trimWith isBlank s.toList

/-- Trimming takes only bytes of blanks away. -/
theorem exists_encode_trim (s : String) : ∃ before after : List Char,
    Utf8.encode s = before.flatMap String.utf8EncodeChar ++ Utf8.encode (trim s) ++
      after.flatMap String.utf8EncodeChar ∧
    (∀ c ∈ before, isBlank c = true) ∧ ∀ c ∈ after, isBlank c = true := by
  obtain ⟨before, after, hsplit, hbefore, hafter⟩ := exists_trimWith isBlank s.toList
  refine ⟨before, after, ?_, hbefore, hafter⟩
  rw [Utf8.encode, Utf8.encode, toList_trim, ← List.flatMap_append, ← List.flatMap_append,
    ← hsplit]

/-- A field that is text as it stands is text after it is trimmed, and the trimmed text is the
same. -/
theorem decode_trimWith {field : Bytes} {text : String} (h : Utf8.decode field = .ok text) :
    ∃ whole, Utf8.decode (trimWith Data.isBlankByte field) = .ok whole ∧
      trim whole = trim text := by
  -- The characters that are taken away are those with a blank byte, which is their only one.
  let inner := trimWith (fun c => (String.utf8EncodeChar c).any Data.isBlankByte) text.toList
  have hbytes : trimWith Data.isBlankByte field = Utf8.encode (String.ofList inner) := by
    rw [← Utf8.encode_of_decode h, Utf8.encode, Utf8.encode, String.toList_ofList]
    refine trimWith_flatMap Utf8.utf8EncodeChar_ne_nil (fun c hc b hb => ?_) fun c hc b hb => ?_
    · obtain ⟨blank, hmem, hblank⟩ := List.any_eq_true.mp hc
      rw [(Utf8.eq_of_ascii_mem (isBlank_of_isBlankByte hblank).1 hmem).2,
        List.mem_singleton] at hb
      rwa [hb]
    · rw [List.any_eq_false] at hc
      simpa using hc b hb
  refine ⟨String.ofList inner, hbytes ▸ Utf8.decode_encode _, ?_⟩
  rw [trim, trim, String.toList_ofList]
  refine congrArg String.ofList (trimWith_trimWith_of_imp fun c hc => ?_)
  obtain ⟨b, hmem, hblank⟩ := List.any_eq_true.mp hc
  exact isBlank_of_mem hblank hmem

/-- A field that is text after it is trimmed is text as it stands. -/
theorem exists_decode_of_trimWith {field : Bytes} {whole : String}
    (h : Utf8.decode (trimWith Data.isBlankByte field) = .ok whole) :
    ∃ text, Utf8.decode field = .ok text := by
  obtain ⟨before, after, hfield, hbefore, hafter⟩ := exists_trimWith Data.isBlankByte field
  obtain ⟨front, rfl⟩ := exists_chars_of_isBlankByte hbefore
  obtain ⟨back, rfl⟩ := exists_chars_of_isBlankByte hafter
  refine ⟨String.ofList (front ++ whole.toList ++ back), ?_⟩
  rw [hfield, ← Utf8.encode_of_decode h, Utf8.encode, ← List.flatMap_append,
    ← List.flatMap_append]
  have hdecode := Utf8.decode_encode (String.ofList (front ++ whole.toList ++ back))
  rwa [Utf8.encode, String.toList_ofList] at hdecode

end PageMerge.Text
