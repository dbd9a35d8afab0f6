import Mathlib.Algebra.Ring.Int.Defs
import Mathlib.Logic.ExistsUnique
import Scaffold.Pagination

/-!
# Pages of a listing

`pageCount total size` is the exact number of pages of a listing, and `Pagination.totalPages` and
`Pagination.offset` have exact results or none. The words on which they have none are those of
`Pagination.fails_iff`; where the page size is positive there are no such words among the pages of
the listing, and the pages part its rows (`Pagination.parts_rows`).
-/

set_option autoImplicit false

namespace Scaffold

/-! ## Words -/

/-- There is a word equal to the integer. -/
def FitsWord (n : Int) : Prop := -2 ^ 63 ≤ n ∧ n < 2 ^ 63

instance (n : Int) : Decidable (FitsWord n) := inferInstanceAs (Decidable (_ ∧ _))

theorem fitsWord_toInt (w : Int64) : FitsWord w.toInt := ⟨w.le_toInt, w.toInt_lt⟩

section
variable {overflow e : ArithmeticError} {n : Int} {w : Int64}

theorem narrow_of_fitsWord (h : FitsWord n) : narrow overflow n = .ok (.ofInt n) := by
  rw [narrow, Int64.toInt_minValue, Int64.toInt_maxValue]
  exact if_pos ⟨h.1, Int.le_sub_one_of_lt h.2⟩

theorem narrow_of_not_fitsWord (h : ¬ FitsWord n) : narrow overflow n = .error overflow := by
  rw [narrow, Int64.toInt_minValue, Int64.toInt_maxValue]
  exact if_neg fun ⟨hmin, hmax⟩ => h ⟨hmin, Int.lt_of_le_sub_one hmax⟩

theorem narrow_eq_ok : narrow overflow n = .ok w ↔ w.toInt = n := by
  by_cases h : FitsWord n
  · rw [narrow_of_fitsWord h, Except.ok.injEq, ← Int64.toInt_inj, Int64.toInt_ofInt_of_le h.1 h.2]
    exact eq_comm
  · rw [narrow_of_not_fitsWord h]
    exact ⟨nofun, fun hw => absurd (hw ▸ fitsWord_toInt w) h⟩

theorem narrow_eq_error : narrow overflow n = .error e ↔ ¬ FitsWord n ∧ e = overflow := by
  by_cases h : FitsWord n
  · simp [narrow_of_fitsWord h, h]
  · simp [narrow_of_not_fitsWord h, h, eq_comm]

end

/-! ## Exact quotients -/

/-- The quotient truncated toward zero, plus one if the remainder is positive. -/
def pageCount (total size : Int) : Int :=
  total.tdiv size + if 0 < total.tmod size then 1 else 0

/-- A divisor other than `1` and `-1` halves at least. -/
theorem natAbs_tdiv_le_half (m : Int) {n : Int} (hn : 2 ≤ n.natAbs) :
    (m.tdiv n).natAbs ≤ m.natAbs / 2 := by
  rw [Int.natAbs_tdiv]
  exact Nat.div_le_div_left hn (by decide)

/-- The only quotient of two words that is no word is that of the least word by `-1`. -/
theorem fitsWord_tdiv_iff {m n : Int} (hm : FitsWord m) (hn : n ≠ 0) :
    FitsWord (m.tdiv n) ↔ ¬ (m = -2 ^ 63 ∧ n = -1) := by
  -- Any divisor but `1` and `-1` halves at least, so its quotients are far from the bounds.
  obtain rfl | rfl | hn2 : n = 1 ∨ n = -1 ∨ 2 ≤ n.natAbs := by omega
  · simp [hm]
  · rw [Int.tdiv_neg, Int.tdiv_one]
    unfold FitsWord at *
    omega
  · have hle := natAbs_tdiv_le_half m hn2
    unfold FitsWord at *
    omega

/-- A division with a remainder has a quotient below the greatest word. -/
theorem fitsWord_tdiv_add_one {m n : Int} (hm : FitsWord m) (hr : 0 < m.tmod n) (hn : n ≠ 0) :
    FitsWord (m.tdiv n + 1) := by
  have hn2 : 2 ≤ n.natAbs := by
    obtain rfl | rfl | hn2 : n = 1 ∨ n = -1 ∨ 2 ≤ n.natAbs := by omega
    · simp at hr
    · simp at hr
    · exact hn2
  have hle := natAbs_tdiv_le_half m hn2
  unfold FitsWord at *
  omega

/-- A listing of no rows has no page. -/
theorem pageCount_zero (size : Int) : pageCount 0 size = 0 := by
  rw [pageCount, Int.zero_tdiv, Int.zero_tmod, if_neg (by decide), Int.add_zero]

section
variable {total size : Int} (ht : 0 < total) (hs : 0 < size)
include ht hs

/-- Rows are left for the last page. -/
theorem lt_of_pageCount : (pageCount total size - 1) * size < total := by
  have hdiv := Int.tdiv_mul_add_tmod total size
  have hnonneg := Int.tmod_nonneg size (Int.le_of_lt ht)
  unfold pageCount
  rw [Int.sub_mul, Int.add_mul]
  split <;> omega

/-- No row is left after the last page. -/
theorem le_pageCount : total ≤ pageCount total size * size := by
  have hdiv := Int.tdiv_mul_add_tmod total size
  have hlt := Int.tmod_lt_of_pos total hs
  have hnonneg := Int.tmod_nonneg size (Int.le_of_lt ht)
  unfold pageCount
  rw [Int.add_mul]
  split <;> omega

theorem pageCount_pos : 0 < pageCount total size := by
  refine Int.not_le.1 fun hn => ?_
  have hreach := le_pageCount ht hs
  have hnone := Int.mul_le_mul_of_nonneg_right hn (Int.le_of_lt hs)
  omega

end

namespace Pagination

section
variable {p : Pagination} {total page perPage : Int64}

/-! ## Results -/

theorem resolvePage_of_le (h : 1 ≤ page) : p.resolvePage page = page :=
  if_neg (Int64.not_lt.2 h)

theorem resolvePerPage_eq_iff {v : Int64} (hv : v < 1) :
    p.resolvePerPage perPage = v ↔ perPage < 1 ∧ p.defaultPerPage = v := by
  unfold resolvePerPage
  split
  · rename_i h
    simp [h]
  · rename_i h
    simp only [h, false_and, iff_false]
    rintro rfl
    exact h hv

theorem resolvePerPage_pos (h : 1 ≤ p.defaultPerPage) : 0 < (p.resolvePerPage perPage).toInt := by
  unfold resolvePerPage
  split
  · exact Int64.le_iff_toInt_le.1 h
  · rename_i hlt
    exact Int64.le_iff_toInt_le.1 (Int64.not_lt.1 hlt)

theorem totalPages_of_zero (h : p.resolvePerPage perPage = 0) :
    p.totalPages total perPage = .error .divideByZero := by
  rw [totalPages, if_pos h]
  rfl

theorem totalPages_of_least (h : p.resolvePerPage perPage = -1) :
    p.totalPages .minValue perPage = .error .divideOverflow := by
  have hq : narrow .divideOverflow (Int64.minValue.toInt.tdiv (-1 : Int64).toInt) =
    .error .divideOverflow := narrow_of_not_fitsWord (by decide)
  simp only [totalPages, h]
  rw [if_neg (by decide), hq]
  rfl

theorem totalPages_of_divides (h0 : p.resolvePerPage perPage ≠ 0)
    (h1 : ¬ (total = .minValue ∧ p.resolvePerPage perPage = -1)) :
    ∃ pages, p.totalPages total perPage = .ok pages ∧
      pages.toInt = pageCount total.toInt (p.resolvePerPage perPage).toInt := by
  have hs : (p.resolvePerPage perPage).toInt ≠ 0 := fun h => h0 (Int64.toInt_inj.1 h)
  have hq : FitsWord (total.toInt.tdiv (p.resolvePerPage perPage).toInt) := by
    refine (fitsWord_tdiv_iff (fitsWord_toInt total) hs).2 fun ⟨ht, hn⟩ => h1 ⟨?_, ?_⟩
    · exact Int64.toInt_inj.1 (ht.trans Int64.toInt_minValue.symm)
    · exact Int64.toInt_inj.1 hn
  have hv := Int64.toInt_ofInt_of_le hq.1 hq.2
  simp only [totalPages, pageCount]
  rw [if_neg h0, narrow_of_fitsWord hq]
  -- A remainder leaves room for one more page: the quotient is not the greatest word.
  by_cases hr : 0 < total.toInt.tmod (p.resolvePerPage perPage).toInt
  · have hq1 := fitsWord_tdiv_add_one (fitsWord_toInt total) hr hs
    refine ⟨.ofInt (_ + 1), ?_, (Int64.toInt_ofInt_of_le hq1.1 hq1.2).trans (by rw [if_pos hr])⟩
    show (if _ then narrow _ ((Int64.ofInt _).toInt + 1) else _) = _
    rw [if_pos hr, hv, narrow_of_fitsWord hq1]
  · refine ⟨.ofInt _, ?_, hv.trans (by rw [if_neg hr, Int.add_zero])⟩
    show (if _ then _ else _) = _
    rw [if_neg hr]
    rfl

theorem offset_of_least (h : p.resolvePage page = .minValue) :
    p.offset page perPage = .error .subtractOverflow := by
  rw [offset, h, narrow_of_not_fitsWord (by decide)]
  rfl

theorem offset_of_ne_least (h : p.resolvePage page ≠ .minValue) :
    p.offset page perPage = narrow .multiplyOverflow
      (((p.resolvePage page).toInt - 1) * (p.resolvePerPage perPage).toInt) := by
  have hb : FitsWord ((p.resolvePage page).toInt - 1) := by
    have hne : (p.resolvePage page).toInt ≠ Int64.minValue.toInt := fun h' => h (Int64.toInt_inj.1 h')
    have hw := fitsWord_toInt (p.resolvePage page)
    rw [Int64.toInt_minValue] at hne
    unfold FitsWord at *
    omega
  rw [offset, narrow_of_fitsWord hb]
  show narrow _ ((Int64.ofInt _).toInt * _) = _
  rw [Int64.toInt_ofInt_of_le hb.1 hb.2]

theorem totalPages_eq_error {e : ArithmeticError} :
    p.totalPages total perPage = .error e ↔
      p.resolvePerPage perPage = 0 ∧ e = .divideByZero ∨
        p.resolvePerPage perPage = -1 ∧ total = .minValue ∧ e = .divideOverflow := by
  by_cases h0 : p.resolvePerPage perPage = 0
  · rw [totalPages_of_zero h0, Except.error.injEq, h0]
    simp [eq_comm]
  · by_cases h1 : total = .minValue ∧ p.resolvePerPage perPage = -1
    · obtain ⟨rfl, hs⟩ := h1
      rw [totalPages_of_least hs, Except.error.injEq, hs]
      simp [eq_comm]
    · obtain ⟨pages, hpages, -⟩ := totalPages_of_divides h0 h1
      simp only [hpages, h0, reduceCtorEq, false_and, false_or, false_iff]
      exact fun ⟨hs, ht, _⟩ => h1 ⟨ht, hs⟩

theorem totalPages_eq_ok {pages : Int64} :
    p.totalPages total perPage = .ok pages ↔
      ¬ (p.resolvePerPage perPage = 0 ∨ p.resolvePerPage perPage = -1 ∧ total = .minValue) ∧
        pages.toInt = pageCount total.toInt (p.resolvePerPage perPage).toInt := by
  constructor
  · intro h
    have hno : ¬ (p.resolvePerPage perPage = 0 ∨
        p.resolvePerPage perPage = -1 ∧ total = .minValue) := by
      rintro (h0 | ⟨hs, rfl⟩)
      · rw [totalPages_of_zero h0] at h
        cases h
      · rw [totalPages_of_least hs] at h
        cases h
    obtain ⟨h0, h1⟩ := not_or.1 hno
    obtain ⟨pages', hpages, hcount⟩ := totalPages_of_divides h0 fun ⟨ht, hs⟩ => h1 ⟨hs, ht⟩
    obtain rfl := Except.ok.inj (hpages.symm.trans h)
    exact ⟨hno, hcount⟩
  · rintro ⟨hno, hcount⟩
    obtain ⟨h0, h1⟩ := not_or.1 hno
    obtain ⟨pages', hpages, hcount'⟩ := totalPages_of_divides h0 fun ⟨ht, hs⟩ => h1 ⟨hs, ht⟩
    rw [hpages, Int64.toInt_inj.1 (hcount'.trans hcount.symm)]

theorem offset_eq_error {e : ArithmeticError} :
    p.offset page perPage = .error e ↔
      p.resolvePage page = .minValue ∧ e = .subtractOverflow ∨
        p.resolvePage page ≠ .minValue ∧
          ¬ FitsWord (((p.resolvePage page).toInt - 1) * (p.resolvePerPage perPage).toInt) ∧
          e = .multiplyOverflow := by
  by_cases h : p.resolvePage page = .minValue
  · simp [offset_of_least h, h, eq_comm]
  · rw [offset_of_ne_least h, narrow_eq_error]
    simp [h]

theorem offset_eq_ok {start : Int64} :
    p.offset page perPage = .ok start ↔ p.resolvePage page ≠ .minValue ∧
      start.toInt = ((p.resolvePage page).toInt - 1) * (p.resolvePerPage perPage).toInt := by
  by_cases h : p.resolvePage page = .minValue
  · simp [offset_of_least h, h]
  · rw [offset_of_ne_least h, narrow_eq_ok]
    simp [h]

end

/-- **The arithmetic is exact, and fails only where it must.** The number of pages fails for a size
below 1 whose default is zero, or is `-1` when the total is the least word; so counting a partial
last page never overflows. The offset fails where the page before the resolved one is no word, or
else the exact product is none. -/
theorem exact_or_fails (p : Pagination) (total page perPage : Int64) :
    let size := p.resolvePerPage perPage
    let rows := ((p.resolvePage page).toInt - 1) * size.toInt
    (∀ e, p.totalPages total perPage = .error e ↔
      perPage < 1 ∧ (p.defaultPerPage = 0 ∧ e = .divideByZero ∨
        p.defaultPerPage = -1 ∧ total = .minValue ∧ e = .divideOverflow)) ∧
    (∀ pages, p.totalPages total perPage = .ok pages ↔
      ¬ (perPage < 1 ∧ (p.defaultPerPage = 0 ∨
        p.defaultPerPage = -1 ∧ total = .minValue)) ∧
      pages.toInt = pageCount total.toInt size.toInt) ∧
    (∀ e, p.offset page perPage = .error e ↔
      p.resolvePage page = .minValue ∧ e = .subtractOverflow ∨
        p.resolvePage page ≠ .minValue ∧ ¬ FitsWord rows ∧ e = .multiplyOverflow) ∧
    ∀ start, p.offset page perPage = .ok start ↔
      p.resolvePage page ≠ .minValue ∧ start.toInt = rows := by
  intro size rows
  have h0 : size = 0 ↔ perPage < 1 ∧ p.defaultPerPage = 0 := resolvePerPage_eq_iff (by decide)
  have h1 : size = -1 ↔ perPage < 1 ∧ p.defaultPerPage = -1 := resolvePerPage_eq_iff (by decide)
  refine ⟨fun e => ?_, fun pages => ?_, fun e => offset_eq_error, fun start => offset_eq_ok⟩
  · rw [totalPages_eq_error, h0, h1, and_assoc, and_assoc, and_or_left]
  · rw [totalPages_eq_ok, h0, h1, and_assoc, and_or_left]

/-! ## The rows of a page -/

/-- The row stands on the page. -/
def Shows (p : Pagination) (page perPage : Int64) (row : Int) : Prop :=
  ∃ start, p.offset page perPage = .ok start ∧
    start.toInt ≤ row ∧ row < start.toInt + (p.resolvePerPage perPage).toInt

theorem exists_totalPages {p : Pagination} (hdefault : 1 ≤ p.defaultPerPage)
    (total perPage : Int64) :
    ∃ pages, p.totalPages total perPage = .ok pages ∧
      pages.toInt = pageCount total.toInt (p.resolvePerPage perPage).toInt := by
  have hs : 0 < (p.resolvePerPage perPage).toInt := resolvePerPage_pos hdefault
  refine totalPages_of_divides (fun h => ?_) (fun ⟨_, h⟩ => ?_)
  · rw [h] at hs
    exact absurd hs (by decide)
  · rw [h] at hs
    exact absurd hs (by decide)

section
variable {p : Pagination} {total perPage pages : Int64} (ht : 0 < total.toInt)
  (hs : 0 < (p.resolvePerPage perPage).toInt)
  (hpages : pages.toInt = pageCount total.toInt (p.resolvePerPage perPage).toInt)
include ht hs hpages

/-- The pages of a listing begin at its rows. -/
theorem offset_of_le {page : Int64} (h1 : 1 ≤ page) (hle : page ≤ pages) :
    ∃ start, p.offset page perPage = .ok start ∧ 0 ≤ start.toInt ∧ start.toInt < total.toInt ∧
      start.toInt = (page.toInt - 1) * (p.resolvePerPage perPage).toInt := by
  have h1' : 1 ≤ page.toInt := Int64.le_iff_toInt_le.1 h1
  have hle' : page.toInt ≤ pages.toInt := Int64.le_iff_toInt_le.1 hle
  have hlast := lt_of_pageCount ht hs
  have hmono : (page.toInt - 1) * (p.resolvePerPage perPage).toInt ≤
      (pages.toInt - 1) * (p.resolvePerPage perPage).toInt :=
    Int.mul_le_mul_of_nonneg_right (by omega) (Int.le_of_lt hs)
  have hnonneg : 0 ≤ (page.toInt - 1) * (p.resolvePerPage perPage).toInt :=
    Int.mul_nonneg (by omega) (Int.le_of_lt hs)
  rw [← hpages] at hlast
  have hfits : FitsWord ((page.toInt - 1) * (p.resolvePerPage perPage).toInt) := by
    have := fitsWord_toInt total
    unfold FitsWord at *
    omega
  have hstart := Int64.toInt_ofInt_of_le hfits.1 hfits.2
  refine ⟨.ofInt _, offset_eq_ok.2 ⟨?_, ?_⟩, ?_, ?_, hstart⟩
  · rw [resolvePage_of_le h1]
    rintro rfl
    exact absurd h1' (by decide)
  · rw [hstart, resolvePage_of_le h1]
  · omega
  · omega

/-- The page of a row is the quotient of the row by the page size, counted from 1. -/
theorem shows_iff {page : Int64} (h1 : 1 ≤ page) (hle : page ≤ pages) (row : Int) :
    p.Shows page perPage row ↔ page.toInt - 1 = row / (p.resolvePerPage perPage).toInt := by
  obtain ⟨start, hstart, -, -, hvalue⟩ := offset_of_le ht hs hpages h1 hle
  rw [eq_comm, Int.ediv_eq_iff_of_pos hs, ← hvalue]
  constructor
  · rintro ⟨start', hstart', hrow, hend⟩
    obtain rfl := Except.ok.inj (hstart.symm.trans hstart')
    exact ⟨hrow, hend⟩
  · exact fun ⟨hrow, hend⟩ => ⟨start, hstart, hrow, hend⟩

/-- A row stands on one page of the listing. -/
theorem existsUnique_shows {row : Int} (h0 : 0 ≤ row) (hrow : row < total.toInt) :
    ∃! page, (1 ≤ page ∧ page ≤ pages) ∧ p.Shows page perPage row := by
  have hq : 0 ≤ row / (p.resolvePerPage perPage).toInt := Int.ediv_nonneg h0 (Int.le_of_lt hs)
  have hlast : row / (p.resolvePerPage perPage).toInt < pages.toInt := by
    rw [Int.ediv_lt_iff_lt_mul hs, hpages]
    exact Int.lt_of_lt_of_le hrow (le_pageCount ht hs)
  have hfits := fitsWord_toInt pages
  have hpage : (Int64.ofInt (row / (p.resolvePerPage perPage).toInt + 1)).toInt =
      row / (p.resolvePerPage perPage).toInt + 1 := by
    unfold FitsWord at hfits
    exact Int64.toInt_ofInt_of_le (by omega) (by omega)
  have h1 : 1 ≤ Int64.ofInt (row / (p.resolvePerPage perPage).toInt + 1) := by
    rw [Int64.le_iff_toInt_le, hpage]
    exact Int.le_add_of_nonneg_left hq
  have hle : Int64.ofInt (row / (p.resolvePerPage perPage).toInt + 1) ≤ pages := by
    rw [Int64.le_iff_toInt_le, hpage]
    exact hlast
  refine ⟨_, ⟨⟨h1, hle⟩, (shows_iff ht hs hpages h1 hle row).2 (by omega)⟩, ?_⟩
  rintro other ⟨⟨h1', hle'⟩, hshows⟩
  have hother := (shows_iff ht hs hpages h1' hle' row).1 hshows
  exact Int64.toInt_inj.1 (by omega)

end

/-- **The pages part the rows.** With a positive default size the number of pages is always found,
and it is the least that reaches the total. No offset of these pages overflows, each is that of a
row, and each row stands on one page; the end of a page is an exact integer, since that of the last
one need not be a word. -/
theorem parts_rows {p : Pagination} (hdefault : 1 ≤ p.defaultPerPage) {total : Int64}
    (ht : 0 ≤ total) (perPage : Int64) :
    let size := (p.resolvePerPage perPage).toInt
    ∃ pages, p.totalPages total perPage = .ok pages ∧ (pages = 0 ↔ total = 0) ∧
      (total ≠ 0 → (pages.toInt - 1) * size < total.toInt ∧ total.toInt ≤ pages.toInt * size) ∧
      (∀ page, 1 ≤ page → page ≤ pages →
        ∃ start, p.offset page perPage = .ok start ∧ 0 ≤ start.toInt ∧ start.toInt < total.toInt) ∧
      ∀ row, 0 ≤ row → row < total.toInt →
        ∃! page, (1 ≤ page ∧ page ≤ pages) ∧ p.Shows page perPage row := by
  intro size
  obtain ⟨pages, hpages, hcount⟩ := exists_totalPages hdefault total perPage
  have hs : 0 < size := resolvePerPage_pos hdefault
  refine ⟨pages, hpages, ?_⟩
  rcases Int.le_iff_eq_or_lt.1 (Int64.le_iff_toInt_le.1 ht) with h0 | hpos
  · obtain rfl : 0 = total := Int64.toInt_inj.1 h0
    obtain rfl : pages = 0 := Int64.toInt_inj.1 (hcount.trans (pageCount_zero size))
    refine ⟨by simp, fun h => absurd rfl h, fun page h1 hle => ?_, fun row hrow hlt => ?_⟩
    · exact absurd (Int64.le_trans h1 hle) (by decide)
    · exact absurd hrow (Int.not_le.2 hlt)
  · have hne : total ≠ 0 := by
      rintro rfl
      exact absurd hpos (by decide)
    have hpagesPos : 0 < pages.toInt := hcount ▸ pageCount_pos hpos hs
    have hpagesNe : pages ≠ 0 := by
      rintro rfl
      exact absurd hpagesPos (by decide)
    refine ⟨iff_of_false hpagesNe hne, fun _ => ?_, fun page h1 hle => ?_, fun row h0 hrow => ?_⟩
    · rw [hcount]
      exact ⟨lt_of_pageCount hpos hs, le_pageCount hpos hs⟩
    · obtain ⟨start, hstart, hnonneg, hlt, -⟩ := offset_of_le hpos hs hcount h1 hle
      exact ⟨start, hstart, hnonneg, hlt⟩
    · exact existsUnique_shows hpos hs hcount h0 hrow

/-- The greatest total takes two pages of `2 ^ 62` rows, and the second one ends at `2 ^ 63`. -/
theorem parts_rows_greatest :
    1 ≤ ({} : Pagination).defaultPerPage ∧ (0 : Int64) ≤ .maxValue ∧
      ({} : Pagination).totalPages .maxValue 4611686018427387904 = .ok 2 ∧
      ∃! page : Int64, (1 ≤ page ∧ page ≤ 2) ∧
        ({} : Pagination).Shows page 4611686018427387904 9223372036854775806 := by
  obtain ⟨pages, hpages, -, -, -, hrows⟩ :=
    @parts_rows {} (by decide) .maxValue (by decide) 4611686018427387904
  have htwo : ({} : Pagination).totalPages .maxValue 4611686018427387904 = .ok 2 :=
    totalPages_eq_ok.2 (by decide)
  obtain rfl := Except.ok.inj (hpages.symm.trans htwo)
  exact ⟨by decide, by decide, htwo, hrows 9223372036854775806 (by decide) (by decide)⟩

end Pagination

end Scaffold
