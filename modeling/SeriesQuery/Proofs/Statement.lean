import SeriesQuery.Proofs.Injection
import SeriesQuery.Render.Select

/-! Select statements whose clauses differ only in the contents of strings. -/

namespace SeriesQuery

open Step

variable {d : Dialect}

theorem Expr.alike_renderAll (hd : d.QuoteSafe) {es : List Expr}
    (h : Lacks d.quote (Expr.rawTextsAll es)) :
    List.Forall₂ (Alike d.quote) (Expr.renderAll d es) (Expr.renderAll d (Expr.blankAll es)) := by
  rw [Expr.rawTextsAll_eq_flatMap, lacks_flatMap] at h
  rw [Expr.renderAll_eq_map, Expr.renderAll_eq_map, Expr.blankAll_eq_map, List.map_map]
  exact forall₂_map_of_forall fun e he => (hereditary_alike hd).all_exprs e (h e he)

namespace Fill

theorem alike_render (hd : d.QuoteSafe) {fill : Fill} (h : Lacks d.quote fill.rawTexts) :
    (fill.render d).Alike d.quote (fill.blank.render d) := by
  have hvalue : d.quote ∉ "VALUE, ".toList := hd.not_mem (by decide)
  cases fill with
  | text s => exact alike_write (h s (List.mem_singleton.mpr rfl))
  | int n =>
    have hn := hd.not_mem_of_isNumeric (isNumeric_of_mem_toString n.toInt)
    apply alike_write
    rw [String.toList_append]
    exact fun hmem => (List.mem_append.mp hmem).elim hvalue hn
  | float x => exact alike_seq (.cons (alike_write hvalue) (.cons (alike_float hd x) .nil))
  | value v => exact (hereditary_alike hd).all_values v h

end Fill

namespace Clauses

theorem isEmpty_blankAll (es : List Expr) : (Expr.blankAll es).isEmpty = es.isEmpty := by
  cases es <;> rfl

theorem selectsAll_blank (c : Clauses) : c.blank.selectsAll = c.selectsAll := by
  have hstar (l : Literal) : l.blank.isStar = l.isStar := by
    obtain ⟨sql, args⟩ := l
    cases args <;> rfl
  unfold selectsAll
  rcases h : c.select with _ | ⟨e, _ | ⟨e', es⟩⟩
  · simp [blank, h, Expr.blankAll]
  · cases e <;> simp [blank, h, Expr.blankAll, Expr.blank, hstar]
  · simp [blank, h, Expr.blankAll]

theorem alike_renderColumns (hd : d.QuoteSafe) {keyword : Step} {cols : List Expr}
    (hk : keyword.Alike d.quote keyword) (h : Lacks d.quote (Expr.rawTextsAll cols)) :
    (renderColumns d keyword cols).Alike d.quote
      (renderColumns d keyword (Expr.blankAll cols)) := by
  have hcols := alike_commaSeparated hd (Expr.alike_renderAll hd h)
  unfold renderColumns
  rw [isEmpty_blankAll]
  exact alike_ite alike_skip (alike_seq (.cons hk (.cons hcols .nil)))

theorem alike_renderArgument (hd : d.QuoteSafe) {keyword : String} {argument argument' : Step}
    (hk : keyword ∈ d.keywords) (h : argument.Alike d.quote argument') :
    (renderArgument d keyword argument).Alike d.quote (renderArgument d keyword argument') := by
  have hparens := alike_parenthesized hd (.cons h .nil)
  exact fun b b' hb => hparens _ _ (alike_keyword hd hk b b' hb)

/-- A time zone is emptied when there is one, so its keyword is written in both or in none. -/
theorem alike_renderTimezone (hd : d.QuoteSafe) (c : Clauses) :
    (renderTimezone d c.timezone).Alike d.quote (renderTimezone d c.blank.timezone) := by
  have hempty : c.blank.timezone.isEmpty = c.timezone.isEmpty := by
    cases h : c.timezone.isEmpty <;> simp [blank, h]
  unfold renderTimezone
  rw [hempty]
  cases h : d.timezone with
  | none => exact alike_skip
  | some keyword =>
    have hkeyword : keyword ∈ d.keywords := by simp [Dialect.keywords, h]
    exact alike_ite alike_skip (alike_renderArgument hd hkeyword (alike_quoted hd _ _))

/-- Emptying the strings of a statement changes no fragment but inside of its literals. -/
theorem alike_renderFragment (hd : d.QuoteSafe) {c : Clauses} (hc : Lacks d.quote c.rawTexts)
    (fragment : Fragment) :
    (c.renderFragment d fragment).Alike d.quote (c.blank.renderFragment d fragment) := by
  simp only [rawTexts, lacks_append] at hc
  obtain ⟨⟨⟨⟨⟨⟨⟨hselect, hsource⟩, hconditions⟩, horder⟩, hpartition⟩, hgroup⟩, hfill⟩,
    hinterval⟩ := hc
  have hkeyword {s : String} (h : s ∈ d.keywords) := alike_keyword hd h
  have hspace := alike_mark hd (c := d.space) (by simp [Dialect.punctuation])
  have hnumber (n : UInt64) :
      ((Value.uint n).render d).Alike d.quote ((Value.uint n).render d) :=
    alike_numeric hd (isNumeric_of_mem_toString n.toNat)
  cases fragment with
  | select =>
    have hstar := alike_mark hd (c := d.star) (by simp [Dialect.punctuation])
    have hcols := alike_commaSeparated hd (Expr.alike_renderAll hd hselect)
    have hall : c.blank.select.isEmpty = c.select.isEmpty := isEmpty_blankAll c.select
    unfold renderFragment renderSelect
    rw [selectsAll_blank, hall]
    exact alike_seq (.cons (hkeyword (by simp [Dialect.keywords]))
      (.cons hspace (.cons (alike_ite hstar hcols) .nil)))
  | source =>
    have hsourceKeyword := alike_seq
      (.cons (hkeyword (s := d.source) (by simp [Dialect.keywords])) (.cons hspace .nil))
    exact alike_renderColumns hd hsourceKeyword hsource
  | filter =>
    have hitems := alike_junction hd .and (Expr.alike_renderAll hd hconditions)
    have hfilter := hkeyword (s := d.filter) (by simp [Dialect.keywords])
    have hempty : c.blank.conditions.isEmpty = c.conditions.isEmpty := isEmpty_blankAll c.conditions
    unfold renderFragment renderConditions
    rw [hempty]
    exact alike_ite alike_skip (alike_seq (.cons hfilter (.cons hitems .nil)))
  | partitionBy =>
    exact alike_renderColumns hd (hkeyword (by simp [Dialect.keywords])) hpartition
  | groupBy => exact alike_renderColumns hd (hkeyword (by simp [Dialect.keywords])) hgroup
  | order => exact alike_renderColumns hd (hkeyword (by simp [Dialect.keywords])) horder
  | interval =>
    have hwrite := alike_write (hinterval c.interval (List.mem_singleton.mpr rfl))
    exact alike_ite alike_skip (alike_renderArgument hd (by simp [Dialect.keywords]) hwrite)
  | fill =>
    unfold renderFragment renderFill
    rw [show c.blank.fill = c.fill.map Fill.blank from rfl]
    cases h : c.fill with
    | none => exact alike_skip
    | some fill =>
      have hfill : Lacks d.quote fill.rawTexts := by simpa [h] using hfill
      have hrender := Fill.alike_render hd hfill
      exact alike_renderArgument hd (by simp [Dialect.keywords]) hrender
  | limit =>
    unfold renderFragment renderLimit
    rw [show c.blank.limit = c.limit from rfl]
    cases c.limit with
    | none => exact alike_skip
    | some limit =>
      exact alike_seq (.cons (hkeyword (by simp [Dialect.keywords])) (.cons (hnumber limit) .nil))
  | offset =>
    exact alike_ite alike_skip
      (alike_seq (.cons (hkeyword (by simp [Dialect.keywords])) (.cons (hnumber c.offset) .nil)))
  | timezone => exact alike_renderTimezone hd c
  | commonTable | join | having | compounds | locking => exact alike_fail _

theorem alike_render (hd : d.QuoteSafe) {c : Clauses} (hc : Lacks d.quote c.rawTexts) :
    (c.render d).Alike d.quote (c.blank.render d) :=
  alike_seq (forall₂_map_of_forall fun fragment _ => alike_renderFragment hd hc fragment)

/-- Whatever strings two queries hold in the same places, both fail with the same error, or both
are written as statements with the same skeleton. -/
theorem skeleton_sql_of_blank_eq {c₁ c₂ : Clauses} (hd : d.QuoteSafe)
    (h₁ : Lacks d.quote c₁.rawTexts) (h₂ : Lacks d.quote c₂.rawTexts) (h : c₁.blank = c₂.blank) :
    (c₁.sql d).map (skeleton d.quote) = (c₂.sql d).map (skeleton d.quote) := by
  have halike₁ := (alike_render hd h₁).map_skeleton_result
  have halike₂ := (alike_render hd h₂).map_skeleton_result
  rw [sql, sql, halike₁, halike₂, h]

/-- Two arguments side by side are read as one literal, whatever they are. -/
theorem skeleton_sql_of_blank_eq_adjacent :
    let clauses (s t : String) : Clauses :=
      { source := [.ofName "meters"]
        conditions := [.equals (.ofName "site") (.string s),
          .literal ⟨"??", [.string t, .bytes []]⟩] }
    let c₁ := clauses "' OR '' = '" ""
    let c₂ := clauses "" "');"
    let d := Dialect.timeSeries
    c₁.sql d = .ok "SELECT * FROM meters WHERE ((site = ''' OR '''' = ''') AND '''')" ∧
      c₂.sql d = .ok "SELECT * FROM meters WHERE ((site = '') AND ''');''')" ∧
      (c₁.sql d).map (skeleton d.quote) = (c₂.sql d).map (skeleton d.quote) := by
  intro clauses c₁ c₂ d
  have h₁ : Lacks d.quote c₁.rawTexts := by unfold Lacks; decide +kernel
  have h₂ : Lacks d.quote c₂.rawTexts := by unfold Lacks; decide +kernel
  refine ⟨by decide +kernel, by decide +kernel, ?_⟩
  exact skeleton_sql_of_blank_eq Dialect.quoteSafe_timeSeries h₁ h₂ rfl

end Clauses

end SeriesQuery
