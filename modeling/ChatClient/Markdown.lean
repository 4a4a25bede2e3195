import Mathlib.Data.List.DropRight
import ChatClient.Types

/-
  The link renderer of `MarkdownContent` (`components/chat/MarkdownContent.tsx`) and the
  scheme the browser gives its `href`.

  `ReactMarkdown` gets no `urlTransform`, so react-markdown runs its `defaultUrlTransform` on
  every URL attribute before a component sees it: a value is kept when it has no colon, when
  its first colon comes after a `/`, `?` or `#`, or when the text before that colon is a safe
  protocol (`http`, `https`, `irc`, `ircs`, `mailto` or `xmpp`, in any case); any other
  becomes `""`. `components.a` then keeps `href` when `isSafeUrl` holds: it is non-empty and
  does not start with `javascript:` or `data:`, compared code unit by code unit.

  The browser reads the scheme with the WHATWG basic URL parser (`Url.scheme`): it first
  strips leading and trailing C0 controls and spaces and removes every ASCII tab and newline,
  then reads an ASCII letter and scheme characters up to a `:`, lowercasing them. So a scheme
  comes from a colon of the raw `href` before which every character is a scheme character or
  one that preprocessing removes, and it is the scheme characters there, lowercased
  (`Url.scheme_eq_some_data`). No such colon follows a `/`, `?` or `#`, and behind a safe
  protocol the scheme is a part of it; so no anchor `href` has scheme `javascript` or `data`
  (`anchorHref_scheme_safe`). The renderer's own guard is sound only on an `href` that
  preprocessing and lowercasing leave as it is (`isSafeUrl_sound_of_normalized`):
  `JavaScript:alert(1)` passes it, and the transform blanks it before.
-/

namespace ChatClient

/-! ## The WHATWG basic URL parser, up to the scheme -/

namespace Url

/-- A C0 control or space: U+0000 to U+0020. -/
def isC0ControlOrSpace (c : Char) : Bool := c.toNat ≤ 0x20

/-- An ASCII tab or newline: U+0009, U+000A, U+000D. -/
def isAsciiTabOrNewline (c : Char) : Bool := c = '\t' || c = '\n' || c = '\r'

/-- The parser's input after its first two steps: leading and trailing C0 controls and spaces
    removed, then every ASCII tab and newline. -/
def preprocess (input : String) : List Char :=
  ((input.data.dropWhile isC0ControlOrSpace).reverse.dropWhile isC0ControlOrSpace).reverse.filter
    fun c => !isAsciiTabOrNewline c

/-- What the scheme state appends to its buffer: ASCII alphanumerics, `+`, `-` and `.`. -/
def isSchemeChar (c : Char) : Bool := c.isAlphanum || c = '+' || c = '-' || c = '.'

/-- The scheme state with `buffer` read so far. At `:` the scheme is the buffer; at any other
    code point, end of input included, the parser starts over in the no scheme state. -/
def schemeState (buffer : List Char) : List Char → Option String
  | [] => none
  | c :: rest =>
    if isSchemeChar c then schemeState (buffer ++ [c.toLower]) rest
    else if c = ':' then some ⟨buffer⟩
    else none

/-- The scheme start state: an ASCII letter starts a scheme; anything else means none. -/
def schemeStart : List Char → Option String
  | c :: rest => if c.isAlpha then schemeState [c.toLower] rest else none
  | [] => none

/-- The scheme the parser, with no state override, reads from `input`; `none` for a reference
    with no scheme, which takes the document's. -/
def scheme (input : String) : Option String := schemeStart (preprocess input)

theorem isC0ControlOrSpace_of_isAsciiTabOrNewline {c : Char} (h : isAsciiTabOrNewline c = true) :
    isC0ControlOrSpace c = true := by
  simp only [isAsciiTabOrNewline, Bool.or_eq_true, decide_eq_true_eq] at h
  rcases h with (rfl | rfl) | rfl <;> rfl

/-- Scheme characters are above the C0 controls and space. -/
theorem not_isC0ControlOrSpace_of_isSchemeChar {c : Char} (h : isSchemeChar c = true) :
    isC0ControlOrSpace c = false := by
  suffices 0x20 < c.toNat by simpa [isC0ControlOrSpace] using this
  simp only [isSchemeChar, Char.isAlphanum, Char.isAlpha, Char.isUpper, Char.isLower,
    Char.isDigit, Bool.or_eq_true, Bool.and_eq_true, decide_eq_true_eq] at h
  rcases h with ((((h | h) | h) | h) | h) | h
  iterate 3 exact Nat.lt_of_lt_of_le (by decide) (UInt32.le_toNat_of_le (by decide) h.1)
  all_goals subst h; decide

/-- What preprocessing removes is no scheme character. -/
theorem not_isSchemeChar_of_isC0ControlOrSpace {c : Char} (h : isC0ControlOrSpace c = true) :
    isSchemeChar c = false := by
  cases hs : isSchemeChar c
  · rfl
  · rw [not_isC0ControlOrSpace_of_isSchemeChar hs] at h; exact absurd h Bool.false_ne_true

/-- The input is what `preprocess` strips in front, what it filters, and what it strips at the
    end. -/
theorem data_eq_of_preprocess (input : String) :
    ∃ front mid back, input.data = front ++ mid ++ back ∧
      (∀ c ∈ front, isC0ControlOrSpace c = true) ∧
      preprocess input = mid.filter fun c => !isAsciiTabOrNewline c := by
  obtain ⟨back, hb⟩ := List.rdropWhile_prefix (p := isC0ControlOrSpace)
    (l := input.data.dropWhile isC0ControlOrSpace)
  refine ⟨input.data.takeWhile isC0ControlOrSpace,
    (input.data.dropWhile isC0ControlOrSpace).rdropWhile isC0ControlOrSpace, back, ?_,
    fun c hc => List.mem_takeWhile_imp hc, rfl⟩
  rw [List.append_assoc, hb, List.takeWhile_append_dropWhile]

theorem schemeState_eq_some {buffer : List Char} {s : String} :
    ∀ {l : List Char}, schemeState buffer l = some s →
      ∃ pre rest, l = pre ++ ':' :: rest ∧ (∀ c ∈ pre, isSchemeChar c = true) ∧
        s = ⟨buffer ++ pre.map Char.toLower⟩
  | [], h => by simp [schemeState] at h
  | c :: l, h => by
    unfold schemeState at h
    split_ifs at h with hc hcolon
    · obtain ⟨pre, rest, rfl, hpre, rfl⟩ := schemeState_eq_some h
      exact ⟨c :: pre, rest, rfl, List.forall_mem_cons.mpr ⟨hc, hpre⟩, by simp⟩
    · cases h; exact ⟨[], l, by rw [hcolon]; rfl, nofun, by simp⟩

/-- The scheme and its colon begin the preprocessed input; the scheme is the scheme
    characters before the colon, lowercased. -/
theorem scheme_eq_some {input s : String} (h : scheme input = some s) :
    ∃ pre rest, preprocess input = pre ++ ':' :: rest ∧ (∀ c ∈ pre, isSchemeChar c = true) ∧
      s.data = pre.map Char.toLower := by
  unfold scheme at h
  generalize preprocess input = l at h
  cases l with
  | nil => simp [schemeStart] at h
  | cons c l =>
    simp only [schemeStart] at h
    split_ifs at h with hc
    obtain ⟨pre, rest, rfl, hpre, rfl⟩ := schemeState_eq_some h
    refine ⟨c :: pre, rest, rfl, List.forall_mem_cons.mpr ⟨?_, hpre⟩, by simp⟩
    simp [isSchemeChar, Char.isAlphanum, hc]

/-- The same on the raw input: before the colon, scheme characters and characters that
    preprocessing removes; the scheme is the scheme characters, lowercased. -/
theorem scheme_eq_some_data {input s : String} (h : scheme input = some s) :
    ∃ pre rest, input.data = pre ++ ':' :: rest ∧
      (∀ c ∈ pre, isSchemeChar c = true ∨ isC0ControlOrSpace c = true) ∧
      s.data = (pre.filter isSchemeChar).map Char.toLower := by
  obtain ⟨Q, R, hpre, hQ, hs⟩ := scheme_eq_some h
  obtain ⟨front, mid, back, hd, hfront, hmid⟩ := data_eq_of_preprocess input
  rw [hmid] at hpre
  obtain ⟨X, l₂, rfl, hX, hl₂⟩ := List.filter_eq_append_iff.mp hpre
  obtain ⟨X', Y, rfl, hX', -, -⟩ := List.filter_eq_cons_iff.mp hl₂
  -- `X` holds the scheme and the tabs and newlines removed from it, `X'` more of them.
  have hkept : ∀ c ∈ X, isAsciiTabOrNewline c = false → isSchemeChar c = true :=
    fun c hc hk => hQ c (hX ▸ List.mem_filter.mpr ⟨hc, by simp [hk]⟩)
  have hdrop : ∀ c, isAsciiTabOrNewline c = true → isSchemeChar c = false := fun c hc =>
    not_isSchemeChar_of_isC0ControlOrSpace (isC0ControlOrSpace_of_isAsciiTabOrNewline hc)
  have hX'tab : ∀ c ∈ X', isAsciiTabOrNewline c = true := fun c hc => by simpa using hX' c hc
  refine ⟨front ++ X ++ X', Y ++ back, by rw [hd]; simp, fun c hc => ?_, ?_⟩
  · simp only [List.mem_append] at hc
    rcases hc with (hc | hc) | hc
    · exact .inr (hfront c hc)
    · cases ht : isAsciiTabOrNewline c
      · exact .inl (hkept c hc ht)
      · exact .inr (isC0ControlOrSpace_of_isAsciiTabOrNewline ht)
    · exact .inr (isC0ControlOrSpace_of_isAsciiTabOrNewline (hX'tab c hc))
  · have hfront0 : front.filter isSchemeChar = [] := List.filter_eq_nil_iff.mpr fun c hc => by
      simp [not_isSchemeChar_of_isC0ControlOrSpace (hfront c hc)]
    have hX'0 : X'.filter isSchemeChar = [] :=
      List.filter_eq_nil_iff.mpr fun c hc => by simp [hdrop c (hX'tab c hc)]
    have hXQ : X.filter isSchemeChar = Q := by
      rw [← hX]
      refine List.filter_congr fun c hc => ?_
      cases ht : isAsciiTabOrNewline c
      · simp [hkept c hc ht]
      · simp [hdrop c ht]
    rw [hs, List.filter_append, List.filter_append, hfront0, hX'0, hXQ]; simp

end Url

/-! ## react-markdown's `defaultUrlTransform` -/

/-- `value.indexOf(c)` for a one-character `c`: the first position of `c`, `none` for `-1`.
    It counts code points where JavaScript counts UTF-16 units; `defaultUrlTransform` only
    compares positions and cuts before one, which both counts do alike. -/
def jsIndexOf (value : String) (c : Char) : Option Nat := value.data.findIdx? (· == c)

/-- `c > -1 && colon > c` of `defaultUrlTransform`, for the position `c` of `value.indexOf`. -/
def occursBefore (value : String) (c : Char) (colon : Nat) : Bool :=
  (jsIndexOf value c).any (· < colon)

/-- `safeProtocol`, `/^(https?|ircs?|mailto|xmpp)$/i`. -/
def safeProtocols : List String := ["http", "https", "irc", "ircs", "mailto", "xmpp"]

/-- `safeProtocol.test(s)`: `s` is a safe protocol up to the case of ASCII letters; without
    the `u` flag, `i` matches no other character to an ASCII letter. -/
def isSafeProtocol (s : List Char) : Bool :=
  decide (String.mk (s.map Char.toLower) ∈ safeProtocols)

/-- `defaultUrlTransform(value)`: `value` when it has no colon, when its first colon comes
    after a `/`, `?` or `#`, or when the text before that colon is a safe protocol; else `""`. -/
def defaultUrlTransform (value : String) : String :=
  match jsIndexOf value ':' with
  | none => value
  | some colon =>
    if occursBefore value '/' colon || occursBefore value '?' colon ||
        occursBefore value '#' colon || isSafeProtocol (value.data.take colon) then value
    else ""

/-- At the first colon of a value whose scheme was read, a character counted before it is one
    of the characters the scheme was read over. -/
theorem mem_of_occursBefore {value : String} {pre rest : List Char} {c : Char} {colon : Nat}
    (hd : value.data = pre ++ ':' :: rest) (hcolon : colon = pre.length)
    (h : occursBefore value c colon = true) : c ∈ pre := by
  unfold occursBefore at h
  cases hi : jsIndexOf value c with
  | none => simp [hi] at h
  | some i =>
    simp only [hi, Option.any_some, decide_eq_true_eq] at h
    have hget := List.findIdx?_of_eq_some hi
    rw [hd, List.getElem?_append_left (hcolon ▸ h)] at hget
    split at hget
    · rename_i a ha; exact (beq_iff_eq.mp hget) ▸ List.getElem?_mem ha
    · exact absurd hget Bool.false_ne_true

/-- Whatever it is given, `defaultUrlTransform` returns a value whose scheme, if it has one, is
    made of characters of a safe protocol, in order. -/
theorem scheme_defaultUrlTransform {value s : String}
    (h : Url.scheme (defaultUrlTransform value) = some s) :
    ∃ w ∈ safeProtocols, List.Sublist s.data w.data := by
  unfold defaultUrlTransform at h
  split at h
  case h_1 hc =>
    obtain ⟨pre, rest, hd, -, -⟩ := Url.scheme_eq_some_data h
    simp [jsIndexOf, hd] at hc
  case h_2 colon hc =>
    split_ifs at h with hk
    · obtain ⟨pre, rest, hd, hpre, hs⟩ := Url.scheme_eq_some_data h
      have hnot : ∀ c, (c = '/' ∨ c = '?' ∨ c = '#' ∨ c = ':') → c ∉ pre := by
        rintro c hc hm
        rcases hc with rfl | rfl | rfl | rfl <;> exact absurd (hpre _ hm) (by decide)
      have hcolon : colon = pre.length := by
        have hn : pre.findIdx? (· == ':') = none :=
          List.findIdx?_eq_none_iff.mpr fun c hc => by
            simpa using fun h => hnot c (.inr (.inr (.inr h))) hc
        simp [jsIndexOf, hd, hn] at hc
        exact hc.symm
      simp only [Bool.or_eq_true] at hk
      rcases hk with ((hk | hk) | hk) | hk
      iterate 3 exact absurd (mem_of_occursBefore hd hcolon hk) (hnot _ (by decide))
      · rw [hd, hcolon, List.take_left] at hk
        exact ⟨_, of_decide_eq_true hk, hs ▸ (List.filter_sublist pre).map _⟩
    · exact (Option.some_ne_none s (h.symm.trans rfl)).elim

/-- No safe protocol has the letters of `javascript` or `data` in order. -/
theorem not_sublist_safeProtocol :
    ∀ w ∈ safeProtocols,
      ¬ List.Sublist "javascript".data w.data ∧ ¬ List.Sublist "data".data w.data := by
  decide

/-! ## The link renderer -/

/-- `isSafeUrl` of `components.a`: `href && !href.startsWith("javascript:") &&
    !href.startsWith("data:")`, on `href : string | undefined`. -/
def isSafeUrl : Option String → Bool
  | some href => href ≠ "" && !jsStartsWith href "javascript:" && !jsStartsWith href "data:"
  | none => false

/-- The `href` the anchor gets: `isSafeUrl ? href : undefined`. -/
def safeHref (href : Option String) : Option String := if isSafeUrl href then href else none

/-- A kept `href` starts with neither prefix. -/
theorem not_startsWith_of_isSafeUrl {href p : String} (h : isSafeUrl (some href) = true)
    (hp : p = "javascript:" ∨ p = "data:") : ¬ p.data <+: href.data := by
  rw [← List.isPrefixOf_iff_prefix]
  rcases hp with rfl | rfl <;> simp_all [isSafeUrl, jsStartsWith]

theorem isSafeUrl_sound_of_normalized {href : String}
    (hn : (Url.preprocess href).map Char.toLower = href.data) (h : isSafeUrl (some href) = true) :
    Url.scheme href ≠ some "javascript" ∧ Url.scheme href ≠ some "data" := by
  have kept : ∀ s, s = "javascript" ∨ s = "data" → Url.scheme href ≠ some s := by
    intro s hs hsch
    obtain ⟨pre, rest, hpre, -, hdata⟩ := Url.scheme_eq_some hsch
    refine @not_startsWith_of_isSafeUrl href (s ++ ":") h ?_ ⟨rest.map Char.toLower, ?_⟩
    · rcases hs with rfl | rfl <;> simp
    · rw [← hn, hpre, String.data_append, hdata]; simp
  exact ⟨kept _ (.inl rfl), kept _ (.inr rfl)⟩

theorem isSafeUrl_sound_on_https :
    (Url.preprocess "https://example.com/a").map Char.toLower = "https://example.com/a".data ∧
    isSafeUrl (some "https://example.com/a") = true ∧
    Url.scheme "https://example.com/a" ≠ some "javascript" ∧
      Url.scheme "https://example.com/a" ≠ some "data" :=
  ⟨by decide, by decide, isSafeUrl_sound_of_normalized (by decide) (by decide)⟩

/-- The anchor's `href` for a link to `url`: react-markdown's transform, then
    `components.a`. -/
def anchorHref (url : String) : Option String := safeHref (some (defaultUrlTransform url))

/-- Every `href` `components.a` keeps, of every link, has neither scheme. -/
theorem anchorHref_scheme_safe (url : String) {href : String} (h : anchorHref url = some href) :
    Url.scheme href ≠ some "javascript" ∧ Url.scheme href ≠ some "data" := by
  have hh : defaultUrlTransform url = href := by
    unfold anchorHref safeHref at h; split_ifs at h; exact Option.some.inj h
  subst hh
  constructor <;> intro hs <;> obtain ⟨w, hw, hsub⟩ := scheme_defaultUrlTransform hs
  exacts [(not_sublist_safeProtocol w hw).1 hsub, (not_sublist_safeProtocol w hw).2 hsub]

/-- The transform blanks what the renderer's guard lets through, and keeps safe and relative
    links. -/
example : anchorHref "JavaScript:alert(1)" = none ∧ anchorHref " javascript:alert(1)" = none ∧
    anchorHref "DATA:text/html,hi" = none ∧
    anchorHref "HTTPS://example.com" = some "HTTPS://example.com" ∧
    anchorHref "/chat?at=10:30" = some "/chat?at=10:30" := by decide

theorem https_anchor_safe :
    anchorHref "https://example.com/a" = some "https://example.com/a" ∧
    (Url.scheme "https://example.com/a" ≠ some "javascript" ∧
      Url.scheme "https://example.com/a" ≠ some "data") :=
  ⟨by decide, anchorHref_scheme_safe "https://example.com/a" (by decide)⟩

end ChatClient
