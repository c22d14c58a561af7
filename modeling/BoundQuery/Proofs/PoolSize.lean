import BoundQuery.Config.Basic
import BoundQuery.Proofs.TextIntegers

/-!
# Settings from the environment

The environment gives settings just if the pool size is not set or is the text of
a positive integer of 32 bits, without the white space around it. They are then
the default ones but for what is set. Else there are none, and the error quotes
the text as it was set.
-/

namespace BoundQuery

namespace Text

/-- The texts of an integer without a minus sign: digits, with any number of zeros in front, and
before them at most one plus sign. -/
inductive SpellsNat : List Char → ℕ → Prop where
  | bare {digits : List Char} (h : Digits digits) : SpellsNat digits (decimal digits)
  | plus {digits : List Char} (h : Digits digits) : SpellsNat ('+' :: digits) (decimal digits)

theorem readUnsigned?_eq_some_iff {cs : List Char} {n : ℕ} :
    readUnsigned? cs = some n ↔ SpellsNat cs n := by
  constructor
  · intro h
    unfold readUnsigned? at h
    split at h
    · obtain ⟨hdigits, rfl⟩ := readNat?_eq_some_iff_digits.1 h
      exact .plus hdigits
    · obtain ⟨hdigits, rfl⟩ := readNat?_eq_some_iff_digits.1 h
      exact .bare hdigits
  · rintro (hdigits | hdigits)
    · obtain ⟨c, later, rfl⟩ := List.exists_cons_of_ne_nil hdigits.ne_nil
      have hc : c.isDigit = true := isDigit_iff_between.2 (hdigits.between c List.mem_cons_self)
      rw [readUnsigned?_of_isDigit hc]
      exact readNat?_eq_some_iff_digits.2 ⟨hdigits, rfl⟩
    · exact readNat?_eq_some_iff_digits.2 ⟨hdigits, rfl⟩

end Text

namespace DatabaseConfig

/-- Whether a text sets this pool size. -/
def SetsPoolSize (text : String) (n : ℕ) : Prop :=
  ∃ core, Text.Trimmed text.toList core ∧ Text.SpellsNat core n ∧ 1 ≤ n ∧ n ≤ 2 ^ 32 - 1

/-- Settings that differ from the default ones in what these two variables set, and in nothing
else. -/
structure SetBy (url poolSize : Option String) (c : DatabaseConfig) : Prop where
  url_unset : url = none → c.url = (default : DatabaseConfig).url
  url_set : ∀ text, url = some text → c.url = text
  poolSize_unset : poolSize = none → c.maxConnections = (default : DatabaseConfig).maxConnections
  poolSize_set : ∀ text, poolSize = some text → SetsPoolSize text c.maxConnections
  style : c.style = (default : DatabaseConfig).style
  timeout : c.timeout = (default : DatabaseConfig).timeout

theorem readPoolSize?_eq_some_iff {text : String} {n : ℕ} :
    readPoolSize? text = some n ↔ SetsPoolSize text n := by
  have htrim := Text.trimmed_trim text.toList
  simp only [readPoolSize?, Option.map_eq_some_iff, Option.filter_eq_some_iff, decide_eq_true_eq,
    Text.readUInt32?_eq_some_iff, Text.readUnsigned?_eq_some_iff]
  constructor
  · rintro ⟨m, ⟨hspells, hpos⟩, rfl⟩
    have hlt := m.toNat_lt
    exact ⟨_, htrim, hspells, UInt32.lt_iff_toNat_lt.1 hpos, by omega⟩
  · rintro ⟨core, hcore, hspells, hpos, hle⟩
    have hsize : UInt32.size = 2 ^ 32 := rfl
    have hback : (UInt32.ofNat n).toNat = n := UInt32.toNat_ofNat_of_lt' (by omega)
    have htext : Text.trim text.toList = core := Text.trim_eq_iff.2 hcore
    refine ⟨UInt32.ofNat n, ⟨?_, UInt32.lt_iff_toNat_lt.2 ?_⟩, hback⟩
    · rwa [hback, htext]
    · rwa [hback]

theorem SetBy.unique {url poolSize : Option String} {c d : DatabaseConfig}
    (hc : c.SetBy url poolSize) (hd : d.SetBy url poolSize) : c = d := by
  have hurl : c.url = d.url := by
    cases url with
    | none => exact (hc.url_unset rfl).trans (hd.url_unset rfl).symm
    | some text => exact (hc.url_set text rfl).trans (hd.url_set text rfl).symm
  have hsize : c.maxConnections = d.maxConnections := by
    cases poolSize with
    | none => exact (hc.poolSize_unset rfl).trans (hd.poolSize_unset rfl).symm
    | some text =>
      have hread := readPoolSize?_eq_some_iff.2 (hc.poolSize_set text rfl)
      exact Option.some.inj (hread.symm.trans (readPoolSize?_eq_some_iff.2 (hd.poolSize_set text rfl)))
  obtain ⟨_, _, _, _⟩ := c
  obtain ⟨_, _, _, _⟩ := d
  simp only [mk.injEq]
  exact ⟨hurl, hsize, hc.style.trans hd.style.symm, hc.timeout.trans hd.timeout.symm⟩

theorem setBy_ofUrl (url : Option String) :
    (ofUrl (url.getD (default : DatabaseConfig).url)).SetBy url none where
  url_unset := by
    rintro rfl
    rfl
  url_set := by
    rintro text rfl
    rfl
  poolSize_unset _ := rfl
  poolSize_set _ h := nomatch h
  style := rfl
  timeout := rfl

theorem setBy_withMaxConnections {url : Option String} {text : String} {n : ℕ}
    (h : SetsPoolSize text n) :
    ((ofUrl (url.getD (default : DatabaseConfig).url)).withMaxConnections n).SetBy url (some text) where
  url_unset := (setBy_ofUrl url).url_unset
  url_set := (setBy_ofUrl url).url_set
  poolSize_unset h := nomatch h
  poolSize_set := by
    rintro _ ⟨rfl⟩
    exact h
  style := rfl
  timeout := rfl

/-- The error for a pool size that is refused, with its text as it was set. -/
def poolSizeError (text : String) : DbError :=
  .config ("NAMEDSQL_MAX_CONNECTIONS must be a positive integer, got '" ++ text ++ "'")

theorem ofEnvironment_cases (url poolSize : Option String) :
    (∃ c, ofEnvironment url poolSize = .ok c ∧ c.SetBy url poolSize) ∨
    ∃ text, poolSize = some text ∧ (∀ n, ¬ SetsPoolSize text n) ∧
      ofEnvironment url poolSize = .error (poolSizeError text) := by
  cases poolSize with
  | none => exact Or.inl ⟨_, rfl, setBy_ofUrl url⟩
  | some text =>
    cases hread : readPoolSize? text with
    | some n =>
      refine Or.inl ⟨_, ?_, setBy_withMaxConnections (readPoolSize?_eq_some_iff.1 hread)⟩
      simp only [ofEnvironment, hread]
    | none =>
      refine Or.inr ⟨text, rfl, fun n hn => ?_, ?_⟩
      · cases hread.symm.trans (readPoolSize?_eq_some_iff.2 hn)
      · simp only [ofEnvironment, hread, poolSizeError]

/-- The environment gives settings just if a pool size, where there is one, is a positive integer of
32 bits; they are the default ones but for what is set. Else it gives an error that quotes the pool
size untrimmed, whatever else is set. -/
theorem ofEnvironment_ok_iff_poolSize (url poolSize : Option String) :
    ((∃ c, ofEnvironment url poolSize = .ok c) ↔
      ∀ text, poolSize = some text → ∃ n, SetsPoolSize text n) ∧
    (∀ c, ofEnvironment url poolSize = .ok c ↔ c.SetBy url poolSize) ∧
    ∀ e, ofEnvironment url poolSize = .error e ↔
      ∃ text, poolSize = some text ∧ (∀ n, ¬ SetsPoolSize text n) ∧ e = poolSizeError text := by
  rcases ofEnvironment_cases url poolSize with ⟨c, hload, hset⟩ | ⟨text, rfl, hno, hload⟩
  · have hsize : ∀ text, poolSize = some text → ∃ n, SetsPoolSize text n := fun text htext =>
      ⟨_, hset.poolSize_set text htext⟩
    rw [hload]
    refine ⟨iff_of_true ⟨c, rfl⟩ hsize, fun d => ?_, fun e => iff_of_false nofun ?_⟩
    · constructor
      · rintro ⟨rfl⟩
        exact hset
      · exact fun hd => congrArg Except.ok (hset.unique hd)
    · rintro ⟨text, htext, hno, _⟩
      obtain ⟨n, hn⟩ := hsize text htext
      exact hno n hn
  · rw [hload]
    refine ⟨iff_of_false nofun fun hsize => ?_, fun d => iff_of_false nofun fun hd => ?_, fun e => ?_⟩
    · obtain ⟨n, hn⟩ := hsize text rfl
      exact hno n hn
    · exact hno _ (hd.poolSize_set text rfl)
    · constructor
      · rintro ⟨rfl⟩
        exact ⟨text, rfl, hno, rfl⟩
      · rintro ⟨_, ⟨rfl⟩, _, rfl⟩
        rfl

/-- An ideographic space and zeros before the greatest size, and a no-break space kept in the
message. -/
example : (ofEnvironment none (some "\u3000+04294967295\n")).map maxConnections = .ok 4294967295 ∧
    ofEnvironment (some "sqlite:a.db") (some "\u00a04294967296") =
      .error (poolSizeError "\u00a04294967296") := by
  decide +kernel

end DatabaseConfig
end BoundQuery
