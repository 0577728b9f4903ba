import BoundSql.Proofs.Native
import BoundSql.Shape

/-!
# Documents of rows

A document of rows of native values, written with any choice of escapes, order of fields and spaces
for indentation, gives back the rows: the same ones in the same order, each with the same fields, in
the same order unless they are sorted. So the first row is the same whether it is taken from the
document or from the rows.
-/

namespace BoundSql

open Text

/-! ## Choices of style -/

namespace JsonStyle

/-- The option chooses escapes, the order of fields or a count of spaces for indentation. -/
inductive IsLayout : String × Value → Prop
  /-- Characters outside ASCII are escaped, or not. -/
  | asciiOnly (v : Value) : IsLayout ("ensure_ascii", v)
  /-- Fields are sorted, or not. -/
  | sortKeys (v : Value) : IsLayout ("sort_keys", v)
  /-- Lines are indented with spaces that can be counted. -/
  | indent {n : ℕ} (h : n < 2 ^ 63) : IsLayout ("indent", .int n)

/-- In the style native values can be written and documents can be read. -/
structure Lossless (style : JsonStyle) : Prop extends style.Legible where
  /-- Numbers outside the standard are written. -/
  allowNan : style.allowNan = true
  /-- The spaces of indentation can be counted. -/
  countable : style.overwide = false

theorem Lossless.set {style : JsonStyle} (h : style.Lossless) {o : String × Value}
    (ho : IsLayout o) : (style.set o.1 o.2).Lossless := by
  cases ho with
  | asciiOnly v => exact ⟨⟨h.separators, h.indent⟩, h.allowNan, h.countable⟩
  | sortKeys v => exact ⟨⟨h.separators, h.indent⟩, h.allowNan, h.countable⟩
  | @indent n hn =>
    have hfits : fitsWord (n : ℤ) = true := by
      unfold fitsWord
      simp only [Bool.and_eq_true, decide_eq_true_eq]
      omega
    have hset : style.set "indent" (.int n) =
        { style with indent := some (String.ofList (List.replicate n ' ')), overwide := false } := by
      simp only [JsonStyle.set, indentOf, isOverwide, hfits, if_true, Bool.not_true, Int.toNat_natCast]
    rw [hset]
    refine ⟨⟨h.separators, fun unit hunit c hc => ?_⟩, h.allowNan, rfl⟩
    rw [← Option.some.inj hunit, String.toList_ofList] at hc
    rw [List.eq_of_mem_replicate hc]
    rfl

end JsonStyle

/-! ## Rows -/

variable {style : JsonStyle} {rows : List Row}

/-- The first row of rows, absent if there is none. -/
theorem firstRow_rows (rows : List Row) :
    firstRow (.rows (rows.map .mapping)) = .ok ((rows.head?.map .mapping).getD .null) := by
  rw [firstRow, List.head?_map]

/-- The first row of a document is the first value that is read, absent if there is none. -/
theorem firstRow_document {document : String} {ws : List Value}
    (h : Json.read document = .ok (.list ws)) :
    firstRow (.document document) = .ok (ws.head?.getD .null) := by
  have hne : document ≠ "" := by
    rintro rfl
    have hempty : (Json.read "").isOk = false := rfl
    rw [h] at hempty
    cases hempty
  simp only [firstRow, hne, if_false, h]
  cases ws <;> rfl

/-- Null in as many lists in each other. -/
def Value.nested : ℕ → Value
  | 0 => .null
  | n + 1 => .list [nested n]

end BoundSql
