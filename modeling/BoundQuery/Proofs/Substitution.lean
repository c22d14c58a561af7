import BoundQuery.Rendering

/-!
# Filling all slots at once

A rendering fills its slots one after the other, in a text that moves under it
and that already holds literals. The result is said here of the unfilled text
alone: each question mark stays or gives way to what belongs to its byte offset.
A slot may be given more than once. Its question mark has then given way, and the
slot points at the last byte of the literal put there, which is that of no
question mark.
-/

namespace BoundQuery

open Text (byteLength splitAt?)

/-- Whether a text has a last character, and that is no question mark. -/
def EndsUnmarked (cs : List Char) : Prop := ∃ last ∈ cs.getLast?, last ≠ '?'

theorem endsUnmarked_of_notMem {cs : List Char} (hne : cs ≠ []) (h : '?' ∉ cs) :
    EndsUnmarked cs := by
  refine ⟨cs.getLast hne, List.getLast?_eq_some_getLast hne, ?_⟩
  rintro heq
  exact h (heq ▸ List.getLast_mem hne)

theorem EndsUnmarked.append {cs : List Char} (h : EndsUnmarked cs) (before : List Char) :
    EndsUnmarked (before ++ cs) := by
  obtain ⟨last, hlast, hne⟩ := h
  refine ⟨last, ?_, hne⟩
  rw [List.getLast?_append, Option.mem_def, Option.mem_def.1 hlast, Option.some_or]

theorem not_endsUnmarked_concat (before : List Char) : ¬ EndsUnmarked (before ++ ['?']) := by
  rintro ⟨last, hlast, hne⟩
  rw [List.getLast?_concat, Option.mem_some_iff] at hlast
  exact hne hlast.symm

/-- A literal is not empty and ends in no question mark, whatever the text that it quotes. -/
theorem endsUnmarked_literal (v : SqlValue) : EndsUnmarked v.literal.toList := by
  have hint : ∀ n : Int, EndsUnmarked (String.ofList (Text.showInt n)).toList := by
    intro n
    rw [String.toList_ofList]
    refine endsUnmarked_of_notMem (Text.showInt_ne_nil n) fun hmem => ?_
    rcases Text.isDigit_or_eq_of_mem_showInt hmem with hdigit | heq
    · cases hdigit
    · cases heq
  have hfloat : ∀ {f : Ieee.Format} (x : Ieee.Number f), EndsUnmarked x.toText.toList := by
    intro f x
    refine endsUnmarked_of_notMem x.toList_toText_ne_nil fun hmem => ?_
    rcases Ieee.Number.isDigit_or_mem_of_mem_toText hmem with hdigit | hname
    · cases hdigit
    · simp at hname
  have hquoted : ∀ s : String, EndsUnmarked (s ++ "'").toList := by
    intro s
    rw [String.toList_append]
    exact EndsUnmarked.append ⟨'\'', rfl, by decide⟩ s.toList
  cases v with
  | null => exact ⟨'L', by simp [SqlValue.literal], by decide⟩
  | bool b => cases b <;> exact ⟨'E', by simp [SqlValue.literal], by decide⟩
  | int8 n => exact hint _
  | int16 n => exact hint _
  | int32 n => exact hint _
  | int64 n => exact hint _
  | float32 x => exact hfloat x
  | float64 x => exact hfloat x
  | text s => exact hquoted _
  | bytes b => exact hquoted _

/-- The text from the byte offset `start` on, where a question mark gives way to what the filling
has for its offset. -/
def fillMarks (filling : Nat → Option (List Char)) : (start : Nat) → List Char → List Char
  | _, [] => []
  | start, c :: cs =>
    (if c = '?' then (filling start).getD [c] else [c]) ++
      fillMarks filling (start + c.utf8Size) cs

/-- The literal that belongs to an offset: that of its slot's argument, empty where the arguments
have run out. -/
def fillingOf (slots : List Nat) (args : List SqlValue) (offset : Nat) : Option (List Char) :=
  (slots.idxOf? offset).map fun i => (args[i]?.elim "" SqlValue.literal).toList

theorem fillMarks_append (filling : Nat → Option (List Char)) (start : Nat) (cs ds : List Char) :
    fillMarks filling start (cs ++ ds) =
      fillMarks filling start cs ++ fillMarks filling (start + byteLength cs) ds := by
  induction cs generalizing start with
  | nil => simp [fillMarks]
  | cons c cs ih => simp [fillMarks, ih, Nat.add_assoc]

theorem fillMarks_congr {filling filling' : Nat → Option (List Char)} {start : Nat}
    {cs : List Char} (h : ∀ before after, cs = before ++ '?' :: after →
      filling (start + byteLength before) = filling' (start + byteLength before)) :
    fillMarks filling start cs = fillMarks filling' start cs := by
  induction cs generalizing start with
  | nil => rfl
  | cons c cs ih =>
    have hrest : fillMarks filling (start + c.utf8Size) cs =
        fillMarks filling' (start + c.utf8Size) cs := by
      apply ih
      intro before after hcs
      simpa [Nat.add_assoc] using h (c :: before) after (by simp [hcs])
    by_cases hc : c = '?'
    · subst hc
      have hhead : filling start = filling' start := by simpa using h [] cs rfl
      simp [fillMarks, hrest, hhead]
    · simp [fillMarks, hrest, hc]

theorem fillMarks_of_none {filling : Nat → Option (List Char)} {start : Nat} {cs : List Char}
    (h : ∀ offset, offset < start + byteLength cs → filling offset = none) :
    fillMarks filling start cs = cs := by
  induction cs generalizing start with
  | nil => rfl
  | cons c cs ih =>
    have hpos := c.utf8Size_pos
    have hhead : filling start = none := h start (by simp only [Text.byteLength_cons]; omega)
    have hrest : fillMarks filling (start + c.utf8Size) cs = cs := by
      apply ih
      intro offset hlt
      exact h offset (by simp only [Text.byteLength_cons]; omega)
    simp [fillMarks, hhead, hrest]

/-- Up to the first offset that a filling has something for, the text stays. -/
theorem fillMarks_of_first {filling : Nat → Option (List Char)} {start : Nat}
    {before after new : List Char}
    (hbefore : ∀ offset, offset < start + byteLength before → filling offset = none)
    (hmark : filling (start + byteLength before) = some new) :
    fillMarks filling start (before ++ '?' :: after) =
      before ++ new ++ fillMarks filling (start + byteLength before + 1) after := by
  have hone : '?'.utf8Size = 1 := rfl
  rw [fillMarks_append, fillMarks_of_none hbefore]
  simp [fillMarks, hmark, hone]

@[simp] theorem fillingOf_nil (args : List SqlValue) (offset : Nat) :
    fillingOf [] args offset = none := rfl

theorem fillingOf_cons (slot : Nat) (slots : List Nat) (args : List SqlValue) (offset : Nat) :
    fillingOf (slot :: slots) args offset =
      if slot = offset then some (args.head?.elim "" SqlValue.literal).toList
      else fillingOf slots args.tail offset := by
  by_cases h : slot = offset
  · cases args <;> simp [fillingOf, List.idxOf?_cons, h]
  · cases args <;> simp [fillingOf, List.idxOf?_cons, h, Option.map_map, Function.comp_def]

theorem fillingOf_eq_none {slots : List Nat} {offset : Nat} (h : offset ∉ slots)
    (args : List SqlValue) : fillingOf slots args offset = none := by
  simp [fillingOf, List.idxOf?_eq_none_iff.2 h]

theorem fillMarks_fillingOf_cons {slot start : Nat} (h : slot < start) (slots : List Nat)
    (args : List SqlValue) (cs : List Char) :
    fillMarks (fillingOf (slot :: slots) args) start cs =
      fillMarks (fillingOf slots args.tail) start cs := by
  apply fillMarks_congr
  intro before _ _
  rw [fillingOf_cons, if_neg (by omega)]

namespace Rendering

/-- While slots are filled, the text behind the last filled slot is as it was. Offsets in the
unfilled text and in this one then differ by what was inserted less what was removed. -/
structure Aligned (r : Rendering) (done rest : List Char) (start : Nat) : Prop where
  text : r.text = done ++ rest
  balance : byteLength done + r.removed = start + r.inserted

variable {r : Rendering} {done rest : List Char} {start slot : Nat}

theorem Aligned.fill_of_mark {before after : List Char}
    (h : r.Aligned done (before ++ '?' :: after) start) (literal : String) :
    (r.fill (start + byteLength before) literal).Aligned (done ++ before ++ literal.toList) after
      (start + byteLength before + 1) := by
  have hbalance := h.balance
  have hat : start + byteLength before + r.inserted - r.removed = byteLength (done ++ before) := by
    rw [Text.byteLength_append]
    omega
  have hsplit : splitAt? (start + byteLength before + r.inserted - r.removed) r.text =
      some (done ++ before, '?' :: after) := by
    rw [hat, h.text, ← List.append_assoc]
    exact Text.splitAt?_append _ _
  rw [fill_of_splitAt? (by omega) hsplit]
  constructor
  · rfl
  · simp only [Text.byteLength_append]
    omega

theorem fill_eq_self (h : ∀ before after, r.text = before ++ '?' :: after →
    byteLength before + r.removed ≠ slot + r.inserted) (literal : String) :
    r.fill slot literal = r := by
  apply fill_of_no_mark
  intro hle before after hsplit
  obtain ⟨htext, hlen⟩ := Text.eq_append_of_splitAt? hsplit
  exact h before after htext (by omega)

theorem Aligned.fill_of_no_mark (h : r.Aligned done rest start) (hle : start ≤ slot)
    (hno : ∀ before after, rest = before ++ '?' :: after → start + byteLength before ≠ slot)
    (literal : String) : r.fill slot literal = r := by
  apply fill_eq_self
  intro before after htext hlen
  have hbalance := h.balance
  rw [h.text] at htext
  obtain ⟨between, rfl, hrest⟩ := Text.exists_append_of_byteLength_le htext (by omega)
  rw [Text.byteLength_append] at hlen
  exact hno between after hrest (by omega)

/-- A slot that was filled just before points at the last byte before the untouched part, and fills
nothing again. -/
theorem Aligned.fill_of_filled (h : r.Aligned done rest (slot + 1)) (hdone : EndsUnmarked done)
    (literal : String) : r.fill slot literal = r := by
  apply fill_eq_self
  intro before after htext hlen
  have hbalance := h.balance
  have hmark : byteLength (before ++ ['?']) = byteLength before + 1 := by
    rw [Text.byteLength_append]
    rfl
  rw [h.text, List.append_cons] at htext
  obtain ⟨between, rfl, _⟩ := Text.exists_append_of_byteLength_le htext.symm (by omega)
  have hnil : between = [] := by
    rw [Text.byteLength_append] at hbalance
    exact Text.byteLength_eq_zero.1 (by omega)
  rw [hnil, List.append_nil] at hdone
  exact not_endsUnmarked_concat before hdone

/-- Whether the slots still to come can be told from those filled: they are in the untouched part,
or they are the slot filled last, behind which an unmarked end stands. -/
def Awaits (start : Nat) (done : List Char) (slots : List Nat) : Prop :=
  ∀ slot ∈ slots, start ≤ slot ∨ slot + 1 = start ∧ EndsUnmarked done

variable {slots : List Nat} {args : List SqlValue}

theorem Awaits.fill_of_mark {before : List Char}
    (hslots : ∀ later ∈ slots, start + byteLength before ≤ later)
    (hargs : ((start + byteLength before) :: slots).Nodup ∨ 0 < args.length) :
    Awaits (start + byteLength before + 1)
      (done ++ before ++ (args.head?.elim "" SqlValue.literal).toList) slots := by
  intro later hmem
  rcases Nat.lt_or_eq_of_le (hslots later hmem) with hlt | heq
  · exact Or.inl hlt
  · refine Or.inr ⟨by rw [heq], EndsUnmarked.append ?_ _⟩
    rcases hargs with hnodup | hpos
    · exact absurd (heq ▸ hmem) (List.nodup_cons.1 hnodup).1
    · obtain ⟨arg, args, rfl⟩ := List.exists_cons_of_length_pos hpos
      exact endsUnmarked_literal arg

/-- One slot more, and what is filled and what is still to be filled make the same text. -/
theorem Aligned.fill_next (h : r.Aligned done rest start) (hslots : ∀ later ∈ slots, slot ≤ later)
    (hargs : (slot :: slots).Nodup ∨ 0 < args.length) (hawaits : Awaits start done (slot :: slots)) :
    ∃ done' rest' start',
      (r.fill slot (args.head?.elim "" SqlValue.literal)).Aligned done' rest' start' ∧
      Awaits start' done' slots ∧
      done' ++ fillMarks (fillingOf slots args.tail) start' rest' =
        done ++ fillMarks (fillingOf (slot :: slots) args) start rest := by
  rcases hawaits slot List.mem_cons_self with hstart | ⟨rfl, hdone⟩
  · by_cases hmark : ∃ before after, rest = before ++ '?' :: after ∧
        start + byteLength before = slot
    · obtain ⟨before, after, rfl, rfl⟩ := hmark
      refine ⟨_, _, _, h.fill_of_mark _, Awaits.fill_of_mark hslots hargs, ?_⟩
      have hbefore : ∀ offset, offset < start + byteLength before →
          fillingOf ((start + byteLength before) :: slots) args offset = none := by
        intro offset hlt
        apply fillingOf_eq_none
        rw [List.mem_cons]
        rintro (heq | hmem)
        · omega
        · have hle := hslots offset hmem
          omega
      rw [fillMarks_of_first hbefore (by rw [fillingOf_cons, if_pos rfl]),
        fillMarks_fillingOf_cons (Nat.lt_succ_self _)]
      simp
    · have hno : ∀ before after, rest = before ++ '?' :: after → start + byteLength before ≠ slot :=
        fun before after hrest heq => hmark ⟨before, after, hrest, heq⟩
      refine ⟨done, rest, start, ?_, fun later hmem => Or.inl (Nat.le_trans hstart (hslots later hmem)),
        ?_⟩
      · rwa [h.fill_of_no_mark hstart hno]
      · congr 1
        apply fillMarks_congr
        intro before after hrest
        rw [fillingOf_cons, if_neg fun heq => hno before after hrest heq.symm]
  · refine ⟨done, rest, slot + 1, ?_, fun later hmem => hawaits later (List.mem_cons_of_mem _ hmem), ?_⟩
    · rwa [h.fill_of_filled hdone]
    · rw [fillMarks_fillingOf_cons (Nat.lt_succ_self _)]

/-- Filling ascending slots in order is filling them all at once. A slot may come again if every
slot has an argument. -/
theorem Aligned.text_fillAll (h : r.Aligned done rest start) (hsorted : slots.Pairwise (· ≤ ·))
    (hargs : slots.Nodup ∨ slots.length ≤ args.length) (hawaits : Awaits start done slots) :
    (r.fillAll slots args).text = done ++ fillMarks (fillingOf slots args) start rest := by
  induction slots generalizing r done rest start args with
  | nil => rw [fillAll_nil, h.text, fillMarks_of_none fun offset _ => fillingOf_nil args offset]
  | cons slot slots ih =>
    obtain ⟨hslots, hsorted⟩ := List.pairwise_cons.1 hsorted
    have hnext : (slot :: slots).Nodup ∨ 0 < args.length :=
      hargs.imp_right fun hle => Nat.lt_of_lt_of_le (Nat.succ_pos _) hle
    have hlater : slots.Nodup ∨ slots.length ≤ args.tail.length := by
      refine hargs.imp (fun hnodup => (List.nodup_cons.1 hnodup).2) fun hle => ?_
      rw [List.length_tail]
      exact Nat.le_sub_of_add_le hle
    obtain ⟨done', rest', start', h', hawaits', htext⟩ := h.fill_next hslots hnext hawaits
    rw [fillAll, ih h' hsorted hlater hawaits', htext]

end Rendering

/-- The loop over the slots replaces them all at once: each slot's question mark gives way to the
literal of its argument, and everything else is as it was. -/
theorem render_eq_fillMarks_of_le {slots : List Nat} {args : List SqlValue}
    (h : slots.Pairwise (· ≤ ·)) (hargs : slots.Nodup ∨ slots.length ≤ args.length)
    (sql : String) :
    render sql slots args = String.ofList (fillMarks (fillingOf slots args) 0 sql.toList) := by
  have haligned : (Rendering.start sql).Aligned [] sql.toList 0 := ⟨rfl, rfl⟩
  have hawaits : Rendering.Awaits 0 [] slots := fun slot _ => Or.inl (Nat.zero_le slot)
  rw [render, haligned.text_fillAll h hargs hawaits, List.nil_append]

theorem render_eq_fillMarks {slots : List Nat} (h : slots.Pairwise (· < ·)) (sql : String)
    (args : List SqlValue) :
    render sql slots args = String.ofList (fillMarks (fillingOf slots args) 0 sql.toList) :=
  render_eq_fillMarks_of_le (h.imp Nat.le_of_lt) (Or.inl (h.imp Nat.ne_of_lt)) sql

/-- The text with its question marks replaced from left to right, each by the literal of the next
argument, or by nothing when there is none left. -/
def fillInOrder : List SqlValue → List Char → List Char
  | _, [] => []
  | args, c :: cs =>
    if c = '?' then (args.head?.elim "" SqlValue.literal).toList ++ fillInOrder args.tail cs
    else c :: fillInOrder args cs

theorem fillMarks_nativeSlotsFrom (start : Nat) (cs : List Char) (args : List SqlValue) :
    fillMarks (fillingOf (nativeSlotsFrom start cs) args) start cs = fillInOrder args cs := by
  induction cs generalizing start args with
  | nil => rfl
  | cons c cs ih =>
    by_cases hc : c = '?'
    · have hpos := c.utf8Size_pos
      have hrest : fillMarks
          (fillingOf (start :: nativeSlotsFrom (start + c.utf8Size) cs) args)
            (start + c.utf8Size) cs = fillInOrder args.tail cs := by
        rw [fillMarks_fillingOf_cons (Nat.lt_add_of_pos_right hpos), ih]
      simp only [nativeSlotsFrom, fillMarks, fillInOrder, if_pos hc, hrest, fillingOf_cons, if_true,
        Option.getD_some]
    · simp [nativeSlotsFrom, fillMarks, fillInOrder, hc, ih]

theorem render_nativeSlots (sql : String) (args : List SqlValue) :
    render sql (nativeSlots sql) args = String.ofList (fillInOrder args sql.toList) := by
  rw [nativeSlots, render_eq_fillMarks (pairwise_nativeSlotsFrom _ _), fillMarks_nativeSlotsFrom]

end BoundQuery
