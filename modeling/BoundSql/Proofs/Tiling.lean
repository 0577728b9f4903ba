import BoundSql.Proofs.Paging
import BoundSql.Proofs.Quotients

/-!
# Pages that tile the rows

The pages of a result should cover each row once: as many pages as are needed and no more, each with
the next few rows. The count of pages is a quotient that goes through double precision, so this is
so exactly when the quotient of total and page size is sharp. It is for every total up to `2 ^ 53`,
and `2 ^ 53 + 1` rows one by one are the first that are not covered.
-/

namespace BoundSql

namespace Pagination

variable {p : Pagination} {number row : ℤ}

/-- The page with another number of the same rows. -/
def turned (p : Pagination) (number : ℤ) : Pagination := { p with page := number }

/-- A row, counted from zero, is in the window of a page. -/
def Holds (p : Pagination) (row : ℤ) : Prop := p.offset ≤ row ∧ row < p.offset + p.perPage

/-- The counts of pages that have room for all rows. There is always a page. -/
def Rooms (p : Pagination) : Set ℤ := {m | 1 ≤ m ∧ p.total ≤ m * p.perPage}

/-- The pages tile the rows. -/
structure Tiles (p : Pagination) : Prop where
  /-- There are as many pages as are needed, and no more. -/
  least : IsLeast p.Rooms p.pages
  /-- Each row is on one page and on no other. -/
  once : ∀ row, 0 ≤ row → row < p.total →
    ∃! number, (1 ≤ number ∧ number ≤ p.pages) ∧ (p.turned number).Holds row
  /-- The last page is empty only when there are no rows. -/
  filled : 0 < p.total → (p.turned p.pages).offset < p.total
  /-- A page has a next one exactly when there are rows behind it. -/
  next : ∀ number, 1 ≤ number → number ≤ p.pages →
    ((p.turned number).hasNext = true ↔ (p.turned number).offset + p.perPage < p.total)

theorem holds_iff (hsize : 1 ≤ p.perPage) :
    (p.turned number).Holds row ↔ row / p.perPage = number - 1 := by
  have hpositive : 0 < p.perPage := by omega
  have hfrom := Int.le_ediv_iff_mul_le (a := number - 1) (b := row) hpositive
  have hto := Int.ediv_lt_iff_lt_mul (a := row) (b := number) hpositive
  have hend : (number - 1) * p.perPage + p.perPage = number * p.perPage := by ring
  rw [Holds, offset, turned, hend, ← hfrom, ← hto]
  omega

/-- With as many pages as are needed, a page is not the last one exactly when its rows and those
before are not all. -/
theorem lt_pages_iff (h : IsLeast p.Rooms p.pages) (hsize : 1 ≤ p.perPage) (hnumber : 1 ≤ number) :
    number < p.pages ↔ number * p.perPage < p.total := by
  refine ⟨fun hless => ?_, fun hless => ?_⟩
  · by_contra hroom
    have hleast := h.2 ⟨hnumber, not_lt.mp hroom⟩
    omega
  · by_contra hbehind
    have hproduct : p.pages * p.perPage ≤ number * p.perPage :=
      Int.mul_le_mul_of_nonneg_right (not_lt.mp hbehind) (by omega)
    have hroom := h.1.2
    omega

/-- As many pages as are needed tile the rows. -/
theorem tiles_of_isLeast (h : IsLeast p.Rooms p.pages) (hsize : 1 ≤ p.perPage) : p.Tiles where
  least := h
  once := by
    intro row hrow hless
    have hbefore : 0 ≤ row / p.perPage := Int.ediv_nonneg hrow (by omega)
    have hroom : row / p.perPage < p.pages := by
      rw [Int.ediv_lt_iff_lt_mul (by omega)]
      exact hless.trans_le h.1.2
    refine ⟨row / p.perPage + 1, ⟨⟨by omega, by omega⟩, ?_⟩, ?_⟩
    · rw [holds_iff hsize]
      omega
    · rintro number ⟨-, hholds⟩
      rw [holds_iff hsize] at hholds
      omega
  filled := by
    intro hsome
    change (p.pages - 1) * p.perPage < p.total
    have hfirst := h.1.1
    rcases Int.lt_or_eq_of_le hfirst with hmore | hone
    · rw [← lt_pages_iff h hsize (by omega)]
      omega
    · rw [← hone, sub_self, zero_mul]
      exact hsome
  next := by
    intro number hnumber hle
    have hend : (p.turned number).offset + p.perPage = number * p.perPage := by
      rw [offset, turned]
      ring
    rw [hend, ← lt_pages_iff h hsize hnumber]
    exact decide_eq_true_iff

/-- As many pages are needed as the quotient rounded up says, and one at least. -/
theorem isLeast_rooms (htotal : 0 ≤ p.total) (hsize : 1 ≤ p.perPage) :
    IsLeast p.Rooms (max 1 ((p.total.toNat ⌈/⌉ p.perPage.toNat : ℕ) : ℤ)) := by
  have htotals : (p.total.toNat : ℤ) = p.total := Int.toNat_of_nonneg htotal
  have hsizes : (p.perPage.toNat : ℤ) = p.perPage := Int.toNat_of_nonneg (by omega)
  have hpositive : 0 < p.perPage.toNat := by omega
  have hroom : ∀ m : ℕ, p.total.toNat ⌈/⌉ p.perPage.toNat ≤ m ↔ p.total ≤ m * p.perPage := by
    intro m
    rw [ceilDiv_le_iff_le_mul hpositive, ← Int.ofNat_le, Nat.mul_comm, Int.natCast_mul, htotals,
      hsizes]
  refine ⟨⟨le_max_left _ _, ?_⟩, ?_⟩
  · calc p.total ≤ (p.total.toNat ⌈/⌉ p.perPage.toNat : ℕ) * p.perPage := (hroom _).mp le_rfl
      _ ≤ max 1 ((p.total.toNat ⌈/⌉ p.perPage.toNat : ℕ) : ℤ) * p.perPage :=
        Int.mul_le_mul_of_nonneg_right (le_max_right _ _) (by omega)
  · rintro m ⟨hm, hall⟩
    obtain ⟨m, rfl⟩ := Int.eq_ofNat_of_zero_le (by omega : 0 ≤ m)
    have hle := (hroom m).mpr hall
    omega

variable {total page perPage : ℤ}

/-- The pages that are worked out tile the rows exactly when the quotient is sharp. -/
theorem tiles_iff_sharp (h : Pagination.of total page perPage = .ok p) (htotal : 0 ≤ total)
    (hsize : 1 ≤ perPage) : p.Tiles ↔ Double.Sharp total.toNat perPage.toNat := by
  obtain ⟨quotient, hquotient, rfl⟩ := exists_quotient h
  have hsigns : ((total < 0 : Bool) != (perPage < 0 : Bool)) = false := by
    rw [decide_eq_false (by omega : ¬ total < 0), decide_eq_false (by omega : ¬ perPage < 0)]
    rfl
  have htotals : total.natAbs = total.toNat := by omega
  have hsizes : perPage.natAbs = perPage.toNat := by omega
  rw [Double.ofQuotient, hsigns, htotals, hsizes] at hquotient
  rw [← Double.ceiling_eq_iff (by omega) hquotient]
  refine ⟨fun htiles => ?_, fun hpages => ?_⟩
  · exact htiles.least.unique (isLeast_rooms htotal hsize)
  · refine tiles_of_isLeast ?_ hsize
    change IsLeast _ (max 1 quotient)
    rw [hpages]
    exact isLeast_rooms htotal hsize

/-- Up to `2 ^ 53` rows every request leads to a page, and the pages tile the rows. -/
theorem exists_tiles (htotal : 0 ≤ total) (hsmall : total ≤ 2 ^ 53) (number size : ℤ) :
    ∃ p, Pagination.of total (max 1 number) (max 1 size) = .ok p ∧ p.total = total ∧ p.Tiles := by
  have hbits : total.natAbs < 2 ^ countBits := by
    calc total.natAbs ≤ 2 ^ 53 := by omega
      _ < 2 ^ countBits := Nat.pow_lt_pow_right (by decide) (by decide)
  have hsize : 1 ≤ max 1 size := le_max_left _ _
  obtain ⟨p, hp, -, -⟩ := of_eq_ok hbits (le_max_left 1 number)
  refine ⟨p, hp, total_of_ok hp, (tiles_iff_sharp hp htotal hsize).mpr ?_⟩
  exact Double.sharp_of_le (by omega) (by omega)

/-- A request for another page of the same rows leads to that page. -/
theorem of_turned (h : Pagination.of total page perPage = .ok p) (hnumber : number ≤ p.pages) :
    Pagination.of p.total number p.perPage = .ok (p.turned number) := by
  obtain ⟨quotient, hquotient, rfl⟩ := exists_quotient h
  rw [Pagination.of, hquotient]
  dsimp only at hnumber ⊢
  rw [min_eq_left hnumber]
  rfl

end Pagination

namespace Builder

variable {σ : Type} {around : Surroundings σ} {table : String} {page perPage : Value}
  {columns : Columns} {shaped : Shaped} {p : Pagination} {s t : Builder × Session σ}

/-- The pages of a result tile its rows exactly when the quotient of total and page size is sharp,
as it is for every total up to `2 ^ 53`. -/
theorem paginate_tiles_iff
    (hreturned : paginate around table page perPage columns s = (.ok (shaped, p), t))
    (htotal : 0 ≤ p.total) :
    ∃ number size, page.toInteger = .ok number ∧ perPage.toInteger = .ok size ∧
      p.perPage = max 1 size ∧ p.page = min (max 1 number) p.pages ∧
      (∀ other ≤ p.pages,
        Pagination.of p.total other p.perPage = .ok (p.turned other)) ∧
      (p.Tiles ↔ Double.Sharp p.total.toNat p.perPage.toNat) ∧
      (p.total ≤ 2 ^ 53 → p.Tiles) := by
  obtain ⟨c⟩ := exists_course hreturned
  have hreports := Pagination.reports c.total_eq c.page_eq
  have hsize : 1 ≤ max 1 c.size := le_max_left _ _
  have htiles := Pagination.tiles_iff_sharp c.page_eq htotal hsize
  rw [← hreports.perPage_eq] at hsize htiles
  refine ⟨c.number, c.size, c.number_eq, c.size_eq, hreports.perPage_eq, hreports.page_eq, ?_,
    htiles, fun hsmall => ?_⟩
  · intro other hother
    exact Pagination.of_turned c.page_eq hother
  · obtain ⟨q, hq, -, hcovered⟩ := Pagination.exists_tiles htotal hsmall c.number c.size
    cases hq.symm.trans c.page_eq
    exact hcovered

/-- The third page of seven rows has one of them. -/
theorem paginate_tiles_iff_seven :
    let s := Builder.cautious [[[(.text "cnt", .int 7)]], [[(.text "id", .int 7)]]]
    ∃ shaped t, paginate Surroundings.answering "users" (.int 3) (.int 3) Columns.all s =
        (.ok (shaped, ⟨7, 3, 3, 3⟩), t) ∧
      (⟨7, 3, 3, 3⟩ : Pagination).Tiles := by
  intro s
  have hpage : (paginate Surroundings.answering "users" (.int 3) (.int 3) Columns.all
      s).1.toOption.map Prod.snd = some ⟨7, 3, 3, 3⟩ := by decide +kernel
  obtain ⟨shaped, t, hreturned⟩ := exists_returned hpage
  obtain ⟨-, -, -, -, -, -, -, -, hsmall⟩ := paginate_tiles_iff hreturned (by decide)
  exact ⟨shaped, t, hreturned, hsmall (by decide)⟩

/-- The last of `2 ^ 53 + 1` rows is on no page, though it was asked for. -/
theorem last_row_lost :
    let s := Builder.cautious [[[(.text "cnt", .int 9007199254740993)]], []]
    ∃ shaped p t, paginate Surroundings.answering "users" (.int 9007199254740993) (.int 1)
        Columns.all s = (.ok (shaped, p), t) ∧
      p.total = 9007199254740993 ∧ p.perPage = 1 ∧ p.hasNext = false ∧ ¬ p.Tiles ∧
      ∀ number ≤ p.pages, ¬ (p.turned number).Holds 9007199254740992 := by
  intro s
  have hpage : (paginate Surroundings.answering "users" (.int 9007199254740993) (.int 1)
      Columns.all s).1.toOption.map Prod.snd =
        some ⟨9007199254740993, 9007199254740992, 1, 9007199254740992⟩ := by decide +kernel
  obtain ⟨shaped, t, hreturned⟩ := exists_returned hpage
  have hlast : (⟨9007199254740993, 9007199254740992, 1, 9007199254740992⟩ :
      Pagination).hasNext = false := by decide
  refine ⟨shaped, _, t, hreturned, rfl, rfl, hlast, fun htiles => ?_, ?_⟩
  · have hroom := htiles.least.1.2
    exact absurd hroom (by decide)
  · intro number hle hholds
    rw [Pagination.holds_iff (by decide)] at hholds
    have hrow : (9007199254740992 : ℤ) / 1 = 9007199254740992 := rfl
    dsimp only at hle hholds
    omega

end Builder

end BoundSql
