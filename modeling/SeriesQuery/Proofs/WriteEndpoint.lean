import Mathlib.Data.List.TakeWhile
import SeriesQuery.Connection
import SeriesQuery.Proofs.FormEncoding
import SeriesQuery.Proofs.Written

/-! The write endpoint on a host that is a single name. Whatever database is asked for, the address
of the endpoint stays the same, and the database is the value of one pair of its query. -/

namespace SeriesQuery

namespace Url

variable {cs name digits : List Char} {c : Char}

/-! ## Hosts that are single names -/

/-- A name of small letters. -/
structure IsSingleName (name : List Char) : Prop where
  ne_nil : name ≠ []
  isLower : ∀ c ∈ name, c.isLower

theorem toNat_of_isLower (h : c.isLower) : 0x61 ≤ c.toNat ∧ c.toNat ≤ 0x7a := by
  obtain ⟨hlow, hhigh⟩ := Bool.and_eq_true_iff.mp h
  exact ⟨UInt32.le_iff_toNat_le.mp (of_decide_eq_true hlow),
    UInt32.le_iff_toNat_le.mp (of_decide_eq_true hhigh)⟩

theorem IsSingleName.not_mem (h : IsSingleName name) (hc : c.isLower = false) : c ∉ name := by
  intro hmem
  exact absurd (h.isLower c hmem) (by simp [hc])

theorem percentDecode_of_isLower (h : ∀ c ∈ name, c.isLower) :
    percentDecode name = name.flatMap String.utf8EncodeChar := by
  induction name with
  | nil => rfl
  | cons c name ih =>
    obtain ⟨hc, hname⟩ := List.forall_mem_cons.mp h
    have hne : c ≠ '%' := by
      rintro rfl
      cases hc
    rw [percentDecode_cons_of_ne hne, ih hname, List.flatMap_cons]

theorem toLower_of_isLower (h : c.isLower) : c.toLower = c := by
  have hrange := toNat_of_isLower h
  refine dif_neg ?_
  rintro ⟨-, hle⟩
  have hle : c.toNat ≤ 0x5a := UInt32.le_iff_toNat_le.mp hle
  omega

theorem map_of_isLower (h : ∀ c ∈ name, c.isLower) : Domain.map? name = some name := by
  have hchar (c : Char) (hc : c.isLower) : Domain.mapChar? c = some [c] := by
    have hrange := toNat_of_isLower hc
    rw [Domain.mapChar?, if_pos (by omega), toLower_of_isLower hc]
  induction name with
  | nil => rfl
  | cons c name ih =>
    obtain ⟨hc, hname⟩ := List.forall_mem_cons.mp h
    obtain ⟨parts, hparts, hflatten⟩ := Option.map_eq_some_iff.mp (ih hname)
    rw [Domain.map?, List.mapM_cons, hchar c hc, hparts]
    simp [hflatten]

/-- The mark of punycode has hyphens, which a name does not have. -/
theorem readLabel_of_isSingleName (h : IsSingleName name) :
    Domain.readLabel? name = some name := by
  rw [Domain.readLabel?]
  rintro code rfl
  exact absurd (h.not_mem (c := '-') rfl) (by simp)

theorem not_isForbiddenInDomain (h : c.isLower) : isForbiddenInDomain c = false := by
  have hrange := toNat_of_isLower h
  have hlisted : [' ', '%', '#', '/', ':', '<', '>', '?', '@', '[', '\\', ']', '^', '|'].all
      (fun x => !x.isLower) = true := by decide
  rw [isForbiddenInDomain, Bool.or_eq_false_iff]
  constructor
  · simp only [isControl, Bool.or_eq_false_iff, decide_eq_false_iff_not]
    omega
  · rw [List.contains_eq_mem, decide_eq_false_iff_not]
    intro hc
    have hnot := List.all_eq_true.mp hlisted c hc
    simp [h] at hnot

theorem toAscii_of_isSingleName (h : IsSingleName name) :
    Domain.toAscii? isForbiddenInDomain name = some name := by
  have hascii : Domain.isAscii name = true := by
    refine List.all_eq_true.mpr fun c hc => ?_
    have hrange := toNat_of_isLower (h.isLower c hc)
    simp only [Domain.Punycode.isAscii, decide_eq_true_eq]
    omega
  have hnormal : Domain.normalize name = name := if_pos hascii
  have hallowed : name.any isForbiddenInDomain = false := by
    refine List.any_eq_false.mpr fun c hc => ?_
    rw [not_isForbiddenInDomain (h.isLower c hc)]
    exact Bool.false_ne_true
  have hleft : Domain.hasRightward name = false := by
    refine List.any_eq_false.mpr fun c hc => ?_
    have hrange := toNat_of_isLower (h.isLower c hc)
    have hc : decide (0x80 ≤ c.toNat) = false := by simp; omega
    simp [hc]
  have hlabels : Domain.labels? isForbiddenInDomain name = some [name] := by
    rw [Domain.labels?, map_of_isLower h.isLower]
    simp only [Option.bind_eq_bind, Option.bind_some, hnormal, hallowed,
      Text.splitAt_of_not_mem (h.not_mem (c := '.') rfl), List.mapM_cons,
      readLabel_of_isSingleName h]
    rfl
  simp [Domain.toAscii?, hlabels, Domain.isSound, hascii, hleft, Domain.encodeLabel]

theorem not_isDigit_of_isLower (h : c.isLower) : c.isDigit = false := by
  have hrange := toNat_of_isLower h
  simp only [Char.isDigit, Bool.and_eq_false_iff, decide_eq_false_iff_not, ge_iff_le,
    UInt32.le_iff_toNat_le, Char.toNat_val]
  exact .inr (by simp; omega)

/-- A letter is no decimal digit, even if it is one in base sixteen. -/
theorem addressNumber_of_isSingleName (h : IsSingleName name) : addressNumber? name = none := by
  cases name with
  | nil => exact absurd rfl h.ne_nil
  | cons c name =>
    have hc := h.isLower c List.mem_cons_self
    have hvalue : ∀ d, Text.hexValue? c = some d → ¬ d < 10 := by
      intro d hd
      rw [Text.hexValue?, not_isDigit_of_isLower hc, if_neg Bool.false_ne_true] at hd
      split_ifs at hd <;> cases hd <;> omega
    rw [addressNumber?, digitsInBase?, List.foldlM_cons]
    · cases hd : Text.hexValue? c with
      | none => rfl
      | some d => simp [hvalue d hd]
    · intro heq
      cases heq
    · rintro c' digits heq
      obtain rfl : c = '0' := (List.cons.inj heq).1
      cases hc

theorem endsInNumber_of_isSingleName (h : IsSingleName name) : endsInNumber name = false := by
  have hdigits : name.all Char.isDigit = false := by
    obtain ⟨c, hc⟩ := List.exists_mem_of_ne_nil name h.ne_nil
    exact List.all_eq_false.mpr ⟨c, hc, by simp [not_isDigit_of_isLower (h.isLower c hc)]⟩
  simp [endsInNumber, Text.splitAt_of_not_mem (h.not_mem (c := '.') rfl), dropLastEmpty, hdigits,
    addressNumber_of_isSingleName h]

theorem readDomain_of_isSingleName (h : IsSingleName name) : readDomain name = .ok name := by
  have hbracket : bracketed? name = none := by
    rw [bracketed?]
    rintro rest rfl
    exact absurd (h.not_mem (c := '[') rfl) (by simp)
  have hdecode : (Text.decodeUtf8 (percentDecode name)).toList = name := by
    have htext := Text.decodeUtf8_encodeUtf8 (String.ofList name)
    rw [Text.encodeUtf8, String.toList_ofList, ← percentDecode_of_isLower h.isLower] at htext
    rw [htext, String.toList_ofList]
  simp [readDomain, hbracket, hdecode, toAscii_of_isSingleName h, h.ne_nil,
    endsInNumber_of_isSingleName h]

/-! ## Addresses with a port -/

theorem splitPort_of_not_mem (hcolon : ':' ∉ name) (hbracket : '[' ∉ name) (rest : List Char) :
    Authority.splitPort false (name ++ rest) =
      (name ++ (Authority.splitPort false rest).1, (Authority.splitPort false rest).2) := by
  induction name with
  | nil => rfl
  | cons c name ih =>
    have hc := List.ne_of_not_mem_cons hcolon
    have hc' := List.ne_of_not_mem_cons hbracket
    have ih := ih (List.not_mem_of_not_mem_cons hcolon) (List.not_mem_of_not_mem_cons hbracket)
    simp [Authority.splitPort, hc.symm, hc'.symm, ih]

/-- The usual port is left out. -/
def shownPort (port : Nat) : Option Nat := if port = 80 then none else some port

theorem readPort_toDigits {port : Nat} (h : port ≤ 65535) :
    Authority.readPort ['h', 't', 't', 'p'] (Nat.toDigits 10 port) = .ok (shownPort port) := by
  have hall : (Nat.toDigits 10 port).all Char.isDigit = true :=
    List.all_eq_true.mpr fun c hc => Nat.isDigit_of_mem_toDigits (by decide) (by decide) hc
  have hne : (Nat.toDigits 10 port).isEmpty = false := by simp [Nat.toDigits_ne_nil]
  have husual : defaultPort? ['h', 't', 't', 'p'] = some 80 := rfl
  have hfits : decide (65535 < port) = false := by simpa using h
  simp only [Authority.readPort, Nat.ofDigitChars_ten_toDigits, hall, hne, husual, hfits, shownPort]
  by_cases hport : port = 80
  · simp [hport]
  · have hport' : 80 ≠ port := Ne.symm hport
    simp [hport, hport']

/-- The characters of an address between the scheme and the query. -/
def isAddressChar (c : Char) : Bool := c.isAlphanum || c = '/' || c = ':'

theorem not_mem_of_isAddressChar (h : ∀ c ∈ cs, isAddressChar c) (hc : isAddressChar c = false) :
    c ∉ cs := by
  intro hmem
  exact absurd (h c hmem) (by simp [hc])

theorem isAlphanum_of_isLower (h : c.isLower) : c.isAlphanum := by
  have hletter : c.isAlpha := Bool.or_eq_true_iff.mpr (.inr h)
  exact Bool.or_eq_true_iff.mpr (.inl hletter)

def portChars : Option Nat → List Char
  | none => []
  | some port => ':' :: Nat.toDigits 10 port

theorem isAddressChar_of_mem_portChars {port : Option Nat} :
    ∀ c ∈ portChars port, isAddressChar c := by
  intro c hc
  cases port with
  | none => cases hc
  | some port =>
    rcases List.mem_cons.mp hc with rfl | hc
    · rfl
    · have hdigit := Nat.isDigit_of_mem_toDigits (by decide) (by decide) hc
      simp [isAddressChar, Char.isAlphanum, hdigit]

theorem splitPort_portChars (port : Option Nat) :
    Authority.splitPort false (portChars port) = ([], port.map (Nat.toDigits 10)) := by
  cases port <;> rfl

/-- Nothing in the name or the port can be taken for a user or a path. -/
theorem read_name_portChars (h : IsSingleName name) {port : Option Nat}
    (hport : ∀ n ∈ port, n ≤ 65535) :
    Authority.read ['h', 't', 't', 'p'] (name ++ portChars port) =
      .ok ({ host := name, port := port.bind shownPort }, []) := by
  have hat : '@' ∉ name ++ portChars port := by
    have hchars : ∀ c ∈ portChars port, isAddressChar c := isAddressChar_of_mem_portChars
    have hport := not_mem_of_isAddressChar (c := '@') hchars rfl
    simp [h.not_mem (c := '@') rfl, hport]
  have huser :
      Authority.splitUserinfo (name ++ portChars port) = (none, name ++ portChars port) := by
    rw [Authority.splitUserinfo, Text.splitAt_of_not_mem hat]
  have hsplit : Authority.splitPort false (name ++ portChars port) =
      (name, port.map (Nat.toDigits 10)) := by
    rw [splitPort_of_not_mem (h.not_mem (c := ':') rfl) (h.not_mem (c := '[') rfl),
      splitPort_portChars, List.append_nil]
  have hhosted : isHosted ['h', 't', 't', 'p'] = true := rfl
  have hname : name.isEmpty = false := by simp [h.ne_nil]
  have hno : Authority.encodeUserinfo [] = [] := rfl
  rw [Authority.read, huser]
  simp only [hsplit, hname, hhosted, readDomain_of_isSingleName h]
  cases port with
  | none => rfl
  | some port =>
    have hplain : ∀ c ∈ Nat.toDigits 10 port, (c != '\\') = true := by
      intro c hc
      have hdigit := Nat.isDigit_of_mem_toDigits (by decide) (by decide) hc
      rw [bne_iff_ne]
      rintro rfl
      cases hdigit
    have hread := readPort_toDigits (hport port rfl)
    simp only [Option.map_some, List.takeWhile_eq_self_iff.mpr hplain,
      List.dropWhile_eq_nil_iff.mpr hplain, hread]
    rfl

/-! ## Endpoints -/

theorem trim_of_visible (h : ∀ c ∈ cs, 0x20 < c.toNat) : trim cs = cs := by
  have hdrop {cs : List Char} (h : ∀ c ∈ cs, 0x20 < c.toNat) :
      cs.dropWhile (fun c => decide (c.toNat ≤ 0x20)) = cs := by
    cases cs with
    | nil => rfl
    | cons c cs =>
      have hc := h c List.mem_cons_self
      rw [List.dropWhile_cons_of_neg (by simpa using hc)]
  have hreverse : ∀ c ∈ cs.reverse, 0x20 < c.toNat := fun c hc => h c (List.mem_reverse.mp hc)
  simp only [trim, hdrop h, hdrop hreverse, List.reverse_reverse]
  refine List.filter_eq_self.mpr fun c hc => ?_
  have hc := h c hc
  have hne {x : Char} (hx : x.toNat ≤ 0x20) : c ≠ x := by
    rintro rfl
    omega
  simp [hne (x := '\t') (by decide), hne (x := '\n') (by decide), hne (x := '\r') (by decide)]

theorem slashes_of_not_mem (h : '\\' ∉ cs) (special : Bool) : slashes special cs = cs := by
  rw [slashes]
  split
  · have hchar : ∀ c ∈ cs, (if c = '\\' then '/' else c) = c := by
      intro c hc
      rw [if_neg (ne_of_mem_of_not_mem hc h)]
    exact (List.map_congr_left hchar).trans (List.map_id' cs)
  · rfl

theorem percentEncode_of_keep {keep : Char → Bool} (h : ∀ c ∈ cs, c.toNat < 0x80 ∧ keep c) :
    percentEncode keep cs = cs := by
  induction cs with
  | nil => rfl
  | cons c cs ih =>
    obtain ⟨⟨hascii, hkeep⟩, hcs⟩ := List.forall_mem_cons.mp h
    have ih := ih hcs
    rw [percentEncode] at ih
    rw [percentEncode, List.flatMap_cons, ih, percentEncodeChar]
    simp [hascii, hkeep]

/-- The characters that queries of form data are made of. -/
def isQueryChar (c : Char) : Bool := isFormChar c || c = '&' || c = '='

/-- The endpoint on a name, whose URL may go on with a query. -/
def endpoint (name : List Char) (port : Option Nat) (query : Option (List Char)) : Url where
  scheme := ['h', 't', 't', 'p']
  authority := some { host := name, port }
  path := "/influxdb/v1/write".toList
  query := query
  fragment := none

theorem visible_of_isAlphanum (h : c.isAlphanum) : 0x20 < c.toNat ∧ c.toNat < 0x7f := by
  rcases Bool.or_eq_true_iff.mp h with hletter | hdigit
  · rcases Bool.or_eq_true_iff.mp hletter with hupper | hlower
    · obtain ⟨hlow, hhigh⟩ := of_decide_eq_true hupper
      have hlow : 0x41 ≤ c.toNat := UInt32.le_iff_toNat_le.mp hlow
      have hhigh : c.toNat ≤ 0x5a := UInt32.le_iff_toNat_le.mp hhigh
      omega
    · have hrange := toNat_of_isLower hlower
      omega
  · obtain ⟨hlow, hhigh⟩ := Bool.and_eq_true_iff.mp hdigit
    have hlow : 0x30 ≤ c.toNat := UInt32.le_iff_toNat_le.mp (of_decide_eq_true hlow)
    have hhigh : c.toNat ≤ 0x39 := UInt32.le_iff_toNat_le.mp (of_decide_eq_true hhigh)
    omega

theorem visible_of_isAddressChar (h : isAddressChar c) : 0x20 < c.toNat ∧ c.toNat < 0x7f := by
  simp only [isAddressChar, Bool.or_eq_true, decide_eq_true_eq] at h
  rcases h with (h | rfl) | rfl
  · exact visible_of_isAlphanum h
  · decide
  · decide

theorem visible_of_isQueryChar (h : isQueryChar c) : 0x20 < c.toNat ∧ c.toNat < 0x7f := by
  simp only [isQueryChar, isFormChar, Bool.or_eq_true, decide_eq_true_eq,
    List.contains_iff_mem] at h
  rcases h with ((h | h) | rfl) | rfl
  · exact visible_of_isAlphanum h
  · have hlisted : ['*', '-', '.', '_', '+', '%'].all
        (fun x => 0x20 < x.toNat && x.toNat < 0x7f) = true := by
      decide
    simpa using List.all_eq_true.mp hlisted c h
  · decide
  · decide

theorem keepInQuery_of_isQueryChar (h : isQueryChar c) : keepInQuery true c := by
  have hvisible := visible_of_isQueryChar h
  have hne {x : Char} (hx : isQueryChar x = false) : c ≠ x := by
    rintro rfl
    rw [hx] at h
    cases h
  have hcontrol : isControl c = false := by
    simp only [isControl, Bool.or_eq_false_iff, decide_eq_false_iff_not]
    omega
  simp [keepInQuery, keepInOpaque, hcontrol, hne (x := ' ') rfl, hne (x := '"') rfl,
    hne (x := '#') rfl, hne (x := '<') rfl, hne (x := '>') rfl, hne (x := '\'') rfl]

def queryChars : Option (List Char) → List Char
  | none => []
  | some query => '?' :: query

/-- What stands in the URL of an endpoint between the scheme and the query. -/
def addressChars (name : List Char) (port : Option Nat) : List Char :=
  '/' :: '/' :: (name ++ portChars port ++ "/influxdb/v1/write".toList)

theorem isAddressChar_of_mem_addressChars (h : IsSingleName name) (port : Option Nat) :
    ∀ c ∈ addressChars name port, isAddressChar c := by
  have hpath : ∀ c ∈ "/influxdb/v1/write".toList, isAddressChar c :=
    List.all_eq_true.mp (by decide)
  intro c hc
  simp only [addressChars, List.mem_cons, List.mem_append] at hc
  rcases hc with rfl | rfl | (hc | hc) | hc
  · rfl
  · rfl
  · simp [isAddressChar, isAlphanum_of_isLower (h.isLower c hc)]
  · exact isAddressChar_of_mem_portChars c hc
  · exact hpath c hc

theorem readHierarchy_addressChars (h : IsSingleName name) {port : Option Nat}
    (hport : ∀ n ∈ port, n ≤ 65535) :
    readHierarchy ['h', 't', 't', 'p'] (addressChars name port) =
      .ok (some { host := name, port := port.bind shownPort }, "/influxdb/v1/write".toList) := by
  have hname : '/' ∉ name := h.not_mem rfl
  have hslash : ∀ c ∈ name ++ portChars port, (c != '/') = true := by
    have hport : '/' ∉ portChars port := by
      cases port with
      | none => exact List.not_mem_nil
      | some port =>
        intro hc
        have hdigits := (List.mem_cons.mp hc).resolve_left (by decide)
        cases Nat.isDigit_of_mem_toDigits (by decide) (by decide) hdigits
    intro c hc
    rw [bne_iff_ne]
    rintro rfl
    exact (List.mem_append.mp hc).elim hname hport
  have hdrop : (addressChars name port).dropWhile (· = '/') =
      name ++ portChars port ++ "/influxdb/v1/write".toList := by
    cases name with
    | nil => exact absurd rfl h.ne_nil
    | cons c name =>
      have hc := List.ne_of_not_mem_cons hname
      simp [addressChars, hc.symm]
  have hsplit : splitAuthority (name ++ portChars port ++ "/influxdb/v1/write".toList) =
      (name ++ portChars port, "/influxdb/v1/write".toList) := by
    have hpath :
        splitAuthority "/influxdb/v1/write".toList = ([], "/influxdb/v1/write".toList) := by
      decide +kernel
    obtain ⟨hfront, hback⟩ := Prod.mk.inj hpath
    rw [splitAuthority, List.takeWhile_append_of_pos hslash, List.dropWhile_append_of_pos hslash,
      hfront, hback, List.append_nil]
  have hpath : readPath true "/influxdb/v1/write".toList = "/influxdb/v1/write".toList := by
    decide +kernel
  have hfile : isFile ['h', 't', 't', 'p'] = false := rfl
  have hhosted : isHosted ['h', 't', 't', 'p'] = true := rfl
  unfold readHierarchy
  rw [hfile, hhosted, hdrop]
  simp only [readAuthorityAndPath, hsplit, read_name_portChars h hport, hhosted]
  exact congrArg (fun path => Except.ok (some _, path)) hpath

/-- An address is parsed as the parts that it was put together from, but for a port that is the
usual one. -/
theorem parse_endpoint (h : IsSingleName name) (port : Option Nat) (query : Option (List Char))
    (hport : ∀ n ∈ port, n ≤ 65535) (hquery : ∀ q ∈ query, ∀ c ∈ q, isQueryChar c) :
    parse (endpoint name port query).text =
      .ok (endpoint name (port.bind shownPort) query) := by
  have haddress := isAddressChar_of_mem_addressChars h port
  have hread := readHierarchy_addressChars h hport
  have htext : (endpoint name port query).text.toList =
      ['h', 't', 't', 'p', ':'] ++ (addressChars name port ++ queryChars query) := by
    rw [text, String.toList_ofList]
    cases port <;> cases query <;>
      simp [chars, endpoint, Authority.chars, pathGuard, addressChars, portChars, queryChars]
  generalize addressChars name port = address at *
  have hmarked : ∀ c ∈ queryChars query, c = '?' ∨ isQueryChar c := by
    intro c hc
    cases query with
    | none => cases hc
    | some query => exact (List.mem_cons.mp hc).imp_right (hquery query rfl c)
  have hscheme : ∀ c ∈ ['h', 't', 't', 'p', ':'], 0x20 < c.toNat := by simp
  have hvisible :
      ∀ c ∈ ['h', 't', 't', 'p', ':'] ++ (address ++ queryChars query), 0x20 < c.toNat := by
    intro c hc
    rcases List.mem_append.mp hc with hc | hc
    · exact hscheme c hc
    rcases List.mem_append.mp hc with hc | hc
    · exact (visible_of_isAddressChar (haddress c hc)).1
    rcases hmarked c hc with rfl | hc
    · decide
    · exact (visible_of_isQueryChar hc).1
  have hsplit : splitScheme? (['h', 't', 't', 'p', ':'] ++ (address ++ queryChars query)) =
      some (['h', 't', 't', 'p'], address ++ queryChars query) := rfl
  have hfragment : Text.cutAt '#' (address ++ queryChars query) =
      (address ++ queryChars query, none) := by
    refine Text.cutAt_of_not_mem fun hc => ?_
    rcases List.mem_append.mp hc with hc | hc
    · exact not_mem_of_isAddressChar haddress rfl hc
    · rcases hmarked _ hc with hc | hc <;> revert hc <;> decide
  have hcut : Text.cutAt '?' (address ++ queryChars query) = (address, query) := by
    have hmark := not_mem_of_isAddressChar (c := '?') haddress rfl
    cases query with
    | none => rw [queryChars, List.append_nil, Text.cutAt_of_not_mem hmark]
    | some query => exact Text.cutAt_append_cons hmark query
  have hslashes : slashes true address = address :=
    slashes_of_not_mem (not_mem_of_isAddressChar haddress rfl) true
  have hencode : query.map (percentEncode (keepInQuery true)) = query := by
    cases query with
    | none => rfl
    | some query =>
      have hkept : ∀ c ∈ query, c.toNat < 0x80 ∧ keepInQuery true c := by
        intro c hc
        have hc := hquery query rfl c hc
        exact ⟨Nat.lt_succ_of_lt (visible_of_isQueryChar hc).2, keepInQuery_of_isQueryChar hc⟩
      rw [Option.map_some, percentEncode_of_keep hkept]
  have hspecial : isSpecial ['h', 't', 't', 'p'] = true := rfl
  rw [parse, htext, trim_of_visible hvisible, hsplit]
  simp only [hfragment, hcut]
  rw [hspecial, hslashes, hread, hencode]
  rfl

theorem isQueryChar_of_mem_formPair (pair : String × String) :
    ∀ c ∈ formPair pair, isQueryChar c := by
  have hform (s : String) : ∀ c ∈ formEncode s, isQueryChar c := by
    intro c hc
    simp [isQueryChar, isFormChar_of_mem_formEncode s c hc]
  exact List.forall_mem_append.mpr ⟨hform _, List.forall_mem_cons.mpr ⟨rfl, hform _⟩⟩

theorem isQueryChar_of_mem_intercalate (pairs : List (String × String)) :
    ∀ c ∈ ['&'].intercalate (pairs.map formPair), isQueryChar c := by
  intro c hc
  obtain ⟨part, hpart, hc⟩ := List.mem_flatten.mp hc
  rcases eq_or_mem_of_mem_intersperse hpart with rfl | hpart
  · obtain rfl := List.mem_singleton.mp hc
    rfl
  · obtain ⟨pair, -, rfl⟩ := List.mem_map.mp hpart
    exact isQueryChar_of_mem_formPair pair c hc

/-- Once the usual port has been left out, parsing again changes nothing. -/
theorem shownPort_shownPort (port : Nat) : (shownPort port).bind shownPort = shownPort port := by
  rw [shownPort]
  split_ifs with h
  · rfl
  · exact if_neg h

theorem le_of_mem_shownPort {port n : Nat} (h : n ∈ shownPort port) : n = port := by
  rw [shownPort] at h
  split_ifs at h
  · cases h
  · exact (Option.some.inj h).symm

end Url

namespace Connection

variable {c : Connection} {name : String}

theorem writeBase_of_host (hhost : c.host = "http://" ++ name) :
    c.writeBase = (Url.endpoint name.toList (some c.port.toNat) none).text := by
  apply String.toList_inj.mp
  rw [writeBase, address, hhost, Url.text, String.toList_ofList]
  simp [Url.chars, Url.endpoint, Url.Authority.chars, Url.pathGuard]

/-- On a host that is a single name, the endpoint is there whatever the database is called, and its
URL is read as what it is: neither the address nor the path changes, no fragment begins, and the
query says the four pairs. -/
theorem writeEndpoint_by_pairs (hname : Url.IsSingleName name.toList)
    (hhost : c.host = "http://" ++ name) :
    ∃ u query, c.writeEndpoint = .ok u ∧ Url.parse u.text = .ok u ∧
      u.authority = some { host := name.toList, port := Url.shownPort c.port.toNat } ∧
      u.path = "/influxdb/v1/write".toList ∧ u.fragment = none ∧ u.query = some query ∧
      Url.formPairs? query =
        some [("consistency", ""), ("db", c.database), ("precision", "s"), ("rp", "")] := by
  have hport : c.port.toNat ≤ 65535 := Nat.le_of_lt_succ c.port.toNat_lt
  set pairs := [("consistency", ""), ("db", c.database), ("precision", "s"), ("rp", "")] with hpairs
  set query := ['&'].intercalate (pairs.map Url.formPair) with hquery
  have hbase := Url.parse_endpoint hname (some c.port.toNat) none
    (by simpa using hport) (by simp)
  have hwrite : c.writeEndpoint =
      .ok (Url.endpoint name.toList (Url.shownPort c.port.toNat) (some query)) := by
    rw [writeEndpoint, writeBase_of_host hhost, hbase]
    rfl
  have hread := Url.parse_endpoint hname (Url.shownPort c.port.toNat) (some query)
    (fun n hn => (Url.le_of_mem_shownPort hn).trans_le hport) (by
      rintro q hq
      cases hq
      exact Url.isQueryChar_of_mem_intercalate pairs)
  rw [Url.shownPort_shownPort] at hread
  exact ⟨_, query, hwrite, hread, rfl, rfl, rfl, rfl, Url.formPairs_intercalate (by simp [hpairs])⟩

/-- A database whose name is full of what means something in a URL. -/
theorem writeEndpoint_by_pairs_separators :
    let c : Connection := { host := "http://tsdb", database := "a&b=c#d%20+é?\n" }
    Url.IsSingleName "tsdb".toList ∧ c.host = "http://" ++ "tsdb" ∧
      ∃ u query, c.writeEndpoint = .ok u ∧ Url.parse u.text = .ok u ∧
        u.authority = some { host := "tsdb".toList, port := some 6041 } ∧
        u.path = "/influxdb/v1/write".toList ∧ u.fragment = none ∧ u.query = some query ∧
        Url.formPairs? query =
          some [("consistency", ""), ("db", "a&b=c#d%20+é?\n"), ("precision", "s"), ("rp", "")] := by
  intro c
  have hname : Url.IsSingleName "tsdb".toList := ⟨by decide, List.all_eq_true.mp (by decide)⟩
  have hhost : c.host = "http://" ++ "tsdb" := by decide +kernel
  exact ⟨hname, hhost, writeEndpoint_by_pairs hname hhost⟩

end Connection

end SeriesQuery
