import Mathlib.Data.List.TakeWhile
import ResourceEmbedding.Template.Analysis

namespace ResourceEmbedding.Template

-- A body is cut at its first two commas.
inductive Parts : List Char → List Char → Option (List Char) → Option (List Char) → Prop
  | index {index : List Char} (h : ',' ∉ index) : Parts index index none none
  | format {index format : List Char} (hi : ',' ∉ index) (hf : ',' ∉ format) :
    Parts (index ++ ',' :: format) index format none
  | style {index format style : List Char} (hi : ',' ∉ index) (hf : ',' ∉ format) :
    Parts (index ++ ',' :: (format ++ ',' :: style)) index format style

-- A part is a number in decimal digits, below ten thousand.
structure Indexes (part : List Char) (n : Nat) : Prop where
  nonempty : Text.trim part ≠ []
  digits   : ∀ c ∈ Text.trim part, c.isDigit
  value    : Text.decimalValue (Text.trim part) = n
  small    : n < 10000

-- A part that is missing and one that is blank say the same.
inductive Trimmed : Option (List Char) → Option String → Prop
  | missing : Trimmed none none
  | blank {part : List Char} (h : Text.trim part = []) : Trimmed part none
  | text {part : List Char} (h : Text.trim part ≠ []) :
    Trimmed part (String.ofList (Text.trim part))

variable {body cs first rest index : List Char} {format style part : Option (List Char)}
variable {text : Option String} {n : Nat} {p : Placeholder}

inductive Describes (body : List Char) : Placeholder → Prop
  | intro {index : List Char} {format style : Option (List Char)} {n : Nat} {f s : Option String}
    (hp : Parts body index format style) (hi : Indexes index n) (hf : Trimmed format f)
    (hs : Trimmed style s) : Describes body ⟨n, .ofFormat (format.map .ofList), f, s⟩

def HasIndex (body : List Char) : Prop :=
  ∃ index format style n, Parts body index format style ∧ Indexes index n

theorem cutAtComma_of_notMem (h : ',' ∉ cs) : cutAtComma cs = (cs, none) := by
  have hd : cs.dropWhile (· != ',') = [] := by
    rw [List.dropWhile_eq_nil_iff]
    intro c hc
    simpa using ne_of_mem_of_not_mem hc h
  simp [cutAtComma, hd]

theorem cutAtComma_append (h : ',' ∉ first) :
    cutAtComma (first ++ ',' :: rest) = (first, some rest) := by
  have hc : ∀ c ∈ first, (c != ',') = true := by
    intro c hc
    simpa using ne_of_mem_of_not_mem hc h
  simp [cutAtComma, List.dropWhile_append_of_pos hc, List.takeWhile_append_of_pos hc]

theorem parts_bodyParts (body : List Char) :
    Parts body (bodyParts body).1 (bodyParts body).2.1 (bodyParts body).2.2 := by
  by_cases hi : ',' ∈ body
  case neg => simpa [bodyParts, cutAtComma_of_notMem hi] using .index hi
  case pos =>
    have ⟨index, rest, hb, hi⟩ := List.eq_append_cons_of_mem hi
    by_cases hf : ',' ∈ rest
    case neg =>
      simpa [hb, bodyParts, cutAtComma_append hi, cutAtComma_of_notMem hf] using .format hi hf
    case pos =>
      have ⟨format, style, hr, hf⟩ := List.eq_append_cons_of_mem hf
      simpa [hb, hr, bodyParts, cutAtComma_append hi, cutAtComma_append hf] using .style hi hf

theorem parts_iff : Parts body index format style ↔ bodyParts body = (index, format, style) := by
  constructor
  case mpr =>
    intro h
    simpa [h] using parts_bodyParts body
  case mp =>
    intro h
    match h with
    | .index hi     => simp [bodyParts, cutAtComma_of_notMem hi]
    | .format hi hf => simp [bodyParts, cutAtComma_append hi, cutAtComma_of_notMem hf]
    | .style hi hf  => simp [bodyParts, cutAtComma_append hi, cutAtComma_append hf]

theorem readIndex_eq_ok_iff : readIndex (Text.trim cs) = .ok n ↔ Indexes cs n := by
  constructor
  case mp =>
    intro h
    have hn : Text.trim cs ≠ [] := by
      intro hn
      simp [readIndex, hn] at h
    have hd : (Text.trim cs).all Char.isDigit := by
      by_contra hd
      rw [Bool.not_eq_true] at hd
      rw [readIndex, hd] at h
      simp [hn] at h
    have hs : ¬largestIndex < Text.decimalValue (Text.trim cs) := by
      intro hs
      simp [readIndex, hn, hd, hs] at h
    have hv : Text.decimalValue (Text.trim cs) = n := by simpa [readIndex, hn, hd, hs] using h
    exact ⟨hn, by simpa using hd, hv, by simp [largestIndex] at hs; omega⟩
  case mpr =>
    intro ⟨hn, hd, hv, hs⟩
    have hd : (Text.trim cs).all Char.isDigit := by simpa using hd
    simp [readIndex, hn, hd, hv, largestIndex, Nat.le_of_lt_succ hs]

theorem trimmed_iff : Trimmed part text ↔ unlessBlank part = text := by
  constructor
  case mp =>
    intro h
    cases h
    case missing => rfl
    case blank part h => simp [unlessBlank, h]
    case text part h => simp [unlessBlank]
  case mpr =>
    intro h
    subst h
    cases part
    case none => exact .missing
    case some part =>
      by_cases h : Text.trim part = []
      case pos => simpa [unlessBlank, h] using Trimmed.blank h
      case neg => simpa [unlessBlank, h] using Trimmed.text h

theorem readBody_eq_ok_iff : readBody body = .ok p ↔ Describes body p := by
  constructor
  case mp =>
    intro h
    cases hi : readIndex (Text.trim (bodyParts body).1)
    case error => simp [readBody, hi, bind, Except.bind] at h
    case ok n =>
      simp only [readBody, hi, bind, Except.bind, pure, Except.pure, Except.ok.injEq] at h
      subst h
      exact .intro (parts_bodyParts body) (readIndex_eq_ok_iff.mp hi) (trimmed_iff.mpr rfl)
        (trimmed_iff.mpr rfl)
  case mpr =>
    intro h
    cases h
    case intro hp hi hf hs =>
      simp [readBody, parts_iff.mp hp, readIndex_eq_ok_iff.mpr hi, trimmed_iff.mp hf,
        trimmed_iff.mp hs, bind, Except.bind, pure, Except.pure]

theorem Describes.hasIndex (h : Describes body p) : HasIndex body := by
  cases h
  case intro hp hi _ _ => exact ⟨_, _, _, _, hp, hi⟩

theorem HasIndex.describes (h : HasIndex body) : ∃ p, Describes body p := by
  have ⟨_, _, _, _, hp, hi⟩ := h
  exact ⟨_, .intro hp hi (trimmed_iff.mpr rfl) (trimmed_iff.mpr rfl)⟩

end ResourceEmbedding.Template
