import ChatClient.Schemas

/-
  What the sign-in and register forms accept, and what they show under each field.

  `registerSchema` reports no issue exactly on the data a reader of the form expects
  (`RegisterValid`, `registerSchema_accepts_iff`): an address, a username of 3 to 50 ASCII
  letters, digits, `_` and `-`, a password of 12 to 128 UTF-16 code units with a lowercase
  and an uppercase letter, a digit and a symbol, typed twice. Some checks of the chains never
  decide: the username's `+` and the confirmation's `min(1)` follow from the others. A symbol
  is printable ASCII other than a letter, a digit or the space, except `/`, which the class
  of the pattern leaves out.

  Every error is the field's own: the message under a field is the first check of its chain
  that its value fails, whatever the other fields hold; only the confirmation also reads the
  password, through the refinement, whose message shows once the confirmation is not empty
  (`registerSchema_fieldError`). Every account the register form submits passes the sign-in
  form's checks (`registered_account_signs_in`).
-/

namespace ChatClient

/-! ## Issues of a chain -/

section Issues

variable {isEmail : String → Bool} {path p : String} {checks : List StringCheck} {s : String}

theorem stringIssues_eq_nil_iff :
    stringIssues isEmail path checks s = [] ↔ ∀ k ∈ checks, k.ok isEmail s = true := by
  simp [stringIssues, List.filter_eq_nil_iff]

theorem path_of_mem_stringIssues {i : Issue} (h : i ∈ stringIssues isEmail path checks s) :
    i.path = path := by
  obtain ⟨k, -, rfl⟩ := List.mem_map.mp h
  rfl

/-- The message of the first check of a chain that `s` fails. -/
def firstFailure (isEmail : String → Bool) (checks : List StringCheck) (s : String) :
    Option String :=
  (checks.find? fun k => !k.ok isEmail s).map StringCheck.message

@[simp] theorem fieldError_nil (p : String) : fieldError [] p = none := rfl

/-- A field's error is the first check of its chain that its value fails, or else what the
    issues after the chain say. -/
theorem fieldError_stringIssues_self (r : List Issue) :
    fieldError (stringIssues isEmail p checks s ++ r) p =
      (firstFailure isEmail checks s).or (fieldError r p) := by
  induction checks with
  | nil => rfl
  | cons k ks ih =>
    cases hk : k.ok isEmail s
    · simp [fieldError, stringIssues, firstFailure, List.filter_cons, hk]
    · simpa [stringIssues, firstFailure, List.filter_cons, hk] using ih

/-- Another field's chain adds nothing to a field's error. -/
theorem fieldError_stringIssues_of_ne (h : path ≠ p) (r : List Issue) :
    fieldError (stringIssues isEmail path checks s ++ r) p = fieldError r p := by
  have hnone : (stringIssues isEmail path checks s).find? (fun i => i.path = p) = none :=
    List.find?_eq_none.mpr fun i hi => by simp [path_of_mem_stringIssues hi, h]
  simp only [fieldError, List.find?_append, hnone, Option.none_or]

end Issues

/-! ## The chains of the fields -/

/-- Printable ASCII other than a letter, a digit and the space: `!` to `/`, `:` to `@`, `[`
    to the backtick, `{` to `~`. -/
def isAsciiPunctuation (c : Char) : Bool :=
  let n := c.toNat
  (33 ≤ n && n ≤ 47) || (58 ≤ n && n ≤ 64) || (91 ≤ n && n ≤ 96) || (123 ≤ n && n ≤ 126)

/-- The symbols of the password's last pattern are the ASCII punctuation but `/`. -/
theorem specialChars_contains (c : Char) :
    specialChars.contains c = (isAsciiPunctuation c && c ≠ '/') := by
  have hinj : Function.Injective Char.toNat := fun a b h => by
    rw [← Char.ofNat_toNat a, h, Char.ofNat_toNat]
  -- sorted, the class is the four runs of ASCII punctuation, the first without `/`
  have hperm : (specialChars.map Char.toNat).Perm
      (List.range' 33 14 ++ List.range' 58 7 ++ List.range' 91 6 ++ List.range' 123 4) := by
    decide
  have hmem : c ∈ specialChars ↔ c.toNat ∈ specialChars.map Char.toNat :=
    (List.mem_map_of_injective hinj).symm
  have hslash : c = '/' ↔ c.toNat = 47 := hinj.eq_iff.symm
  rw [Bool.eq_iff_iff]
  simp only [List.contains, List.elem_iff, hmem, hperm.mem_iff, List.mem_append,
    List.mem_range'_1, isAsciiPunctuation, Bool.and_eq_true, Bool.or_eq_true, decide_eq_true_eq,
    ne_eq, hslash]
  omega

/-- A code point of a username is ASCII, so one UTF-16 code unit. -/
theorem toNat_lt_of_isUsernameChar {c : Char} (h : isUsernameChar c = true) : c.toNat < 128 := by
  simp only [isUsernameChar, Char.isAlphanum, Char.isAlpha, Char.isUpper, Char.isLower,
    Char.isDigit, Bool.or_eq_true, Bool.and_eq_true, decide_eq_true_eq, UInt32.le_def,
    BitVec.le_def, UInt32.toBitVec_ofNat, BitVec.toNat_ofNat] at h
  show c.val.toBitVec.toNat < 128
  rcases h with (((h | h) | h) | rfl) | rfl
  · omega
  · omega
  · omega
  · decide
  · decide

theorem utf16Units_of_lt {cs : List Char} (h : ∀ c ∈ cs, c.toNat < 0x10000) :
    utf16Units cs = cs.length := by
  induction cs with
  | nil => rfl
  | cons c cs ih =>
    have hc := h c (.head _)
    simp only [utf16Units, List.length_cons, ih fun d hd => h d (.tail _ hd)]
    rw [if_neg (by omega)]
    omega

/-- A string of username code points has as many UTF-16 code units as code points. -/
theorem jsLength_of_usernameChars {s : String} (h : ∀ c ∈ s.data, isUsernameChar c = true) :
    jsLength s = s.length :=
  utf16Units_of_lt fun c hm => by have := toNat_lt_of_isUsernameChar (h c hm); omega

section Chains

variable {isEmail : String → Bool} {path : String} {s : String}

theorem one_le_jsLength_iff : 1 ≤ jsLength s ↔ s ≠ "" := jsLength_pos_iff s

theorem emailIssues_eq_nil_iff :
    stringIssues isEmail path emailChecks s = [] ↔ s ≠ "" ∧ isEmail s = true := by
  simp [stringIssues_eq_nil_iff, emailChecks, StringCheck.ok, one_le_jsLength_iff]

theorem loginPasswordIssues_eq_nil_iff :
    stringIssues isEmail path loginPasswordChecks s = [] ↔ s ≠ "" := by
  simp [stringIssues_eq_nil_iff, loginPasswordChecks, StringCheck.ok, one_le_jsLength_iff]

theorem firstFailure_confirmPassword :
    firstFailure isEmail confirmPasswordChecks s = if s = "" then some "請確認密碼" else none := by
  by_cases hs : s = ""
  · simp [hs, firstFailure, confirmPasswordChecks, StringCheck.ok, jsLength, utf16Units,
      StringCheck.message]
  · simp [hs, firstFailure, confirmPasswordChecks, StringCheck.ok, one_le_jsLength_iff.mpr hs]

theorem confirmPasswordIssues_eq_nil_iff :
    stringIssues isEmail path confirmPasswordChecks s = [] ↔ s ≠ "" := by
  simp [stringIssues_eq_nil_iff, confirmPasswordChecks, StringCheck.ok, one_le_jsLength_iff]

/-- The username's chain: its length in code points, which are ASCII, and its class; the
    pattern's `+` follows from `min(3)`. -/
theorem usernameIssues_eq_nil_iff :
    stringIssues isEmail path usernameChecks s = [] ↔
      (3 ≤ s.length ∧ s.length ≤ 50) ∧ ∀ c ∈ s.data, isUsernameChar c = true := by
  simp only [stringIssues_eq_nil_iff, usernameChecks, List.forall_mem_cons,
    List.not_mem_nil, false_implies, implies_true, and_true, StringCheck.ok,
    decide_eq_true_eq, usernamePattern, Bool.and_eq_true, Bool.not_eq_true',
    List.isEmpty_eq_false, List.all_eq_true]
  constructor
  · rintro ⟨h3, h50, -, hc⟩
    rw [jsLength_of_usernameChars hc] at h3 h50
    exact ⟨⟨h3, h50⟩, hc⟩
  · rintro ⟨⟨h3, h50⟩, hc⟩
    rw [← jsLength_of_usernameChars hc] at h3 h50
    refine ⟨h3, h50, fun h => ?_, hc⟩
    simp [jsLength, h, utf16Units] at h3

/-- The password's chain: its length in UTF-16 code units, and one code point of each class. -/
theorem passwordIssues_eq_nil_iff :
    stringIssues isEmail path passwordChecks s = [] ↔
      (12 ≤ jsLength s ∧ jsLength s ≤ 128) ∧ (∃ c ∈ s.data, c.isLower) ∧
      (∃ c ∈ s.data, c.isUpper) ∧ (∃ c ∈ s.data, c.isDigit) ∧
      ∃ c ∈ s.data, isAsciiPunctuation c ∧ c ≠ '/' := by
  simp only [stringIssues_eq_nil_iff, passwordChecks, List.forall_mem_cons,
    List.not_mem_nil, false_implies, implies_true, and_true, StringCheck.ok,
    decide_eq_true_eq, List.any_eq_true, specialChars_contains, Bool.and_eq_true,
    and_assoc]

end Chains

/-! ## What the register form accepts -/

/-- What the register form is for, field by field. -/
structure RegisterValid (isEmail : String → Bool) (d : RegisterFormData) : Prop where
  email_ne : d.email ≠ ""
  email_valid : isEmail d.email = true
  username_length : 3 ≤ d.username.length ∧ d.username.length ≤ 50
  username_chars : ∀ c ∈ d.username.data, c.isAlpha ∨ c.isDigit ∨ c = '_' ∨ c = '-'
  password_length : 12 ≤ jsLength d.password ∧ jsLength d.password ≤ 128
  password_lower : ∃ c ∈ d.password.data, c.isLower
  password_upper : ∃ c ∈ d.password.data, c.isUpper
  password_digit : ∃ c ∈ d.password.data, c.isDigit
  password_symbol : ∃ c ∈ d.password.data, isAsciiPunctuation c ∧ c ≠ '/'
  confirmed : d.confirmPassword = d.password

theorem isUsernameChar_iff (c : Char) :
    isUsernameChar c = true ↔ c.isAlpha ∨ c.isDigit ∨ c = '_' ∨ c = '-' := by
  simp [isUsernameChar, Char.isAlphanum, or_assoc]

theorem refinement_eq_nil_iff {p c : String} :
    (if p = c then [] else [(⟨"confirmPassword", "密碼不相符"⟩ : Issue)]) = [] ↔ c = p := by
  split <;> simp_all [eq_comm]

/-- `registerSchema` reports no issue exactly on the data the form is for: the pattern's `+`
    and the confirmation's `min(1)` never decide, and the symbols are ASCII punctuation but
    `/`. -/
theorem registerSchema_accepts_iff (isEmail : String → Bool) (d : RegisterFormData) :
    registerSchema isEmail d = [] ↔ RegisterValid isEmail d := by
  simp only [registerSchema, List.append_eq_nil, emailIssues_eq_nil_iff,
    usernameIssues_eq_nil_iff, passwordIssues_eq_nil_iff, confirmPasswordIssues_eq_nil_iff,
    refinement_eq_nil_iff, isUsernameChar_iff]
  constructor
  · rintro ⟨⟨⟨⟨⟨he, hv⟩, hu, hc⟩, hl, hlo, hup, hd, hs⟩, -⟩, hconf⟩
    exact ⟨he, hv, hu, hc, hl, hlo, hup, hd, hs, hconf⟩
  · rintro ⟨he, hv, hu, hc, hl, hlo, hup, hd, hs, hconf⟩
    have hne : d.confirmPassword ≠ "" := hconf ▸ one_le_jsLength_iff.mp (by omega)
    exact ⟨⟨⟨⟨⟨he, hv⟩, hu, hc⟩, hl, hlo, hup, hd, hs⟩, hne⟩, hconf⟩

/-! ## What the forms show -/

/-- Under each field of the register form, the first check of its chain that its value
    fails; under the confirmation, `min(1)`'s message when it is empty, else the
    refinement's when it differs from the password. -/
theorem registerSchema_fieldError (isEmail : String → Bool) (d : RegisterFormData) :
    fieldError (registerSchema isEmail d) "email" = firstFailure isEmail emailChecks d.email ∧
    fieldError (registerSchema isEmail d) "username" =
      firstFailure isEmail usernameChecks d.username ∧
    fieldError (registerSchema isEmail d) "password" =
      firstFailure isEmail passwordChecks d.password ∧
    fieldError (registerSchema isEmail d) "confirmPassword" =
      if d.confirmPassword = "" then some "請確認密碼"
      else if d.password = d.confirmPassword then none else some "密碼不相符" := by
  have hrefine : ∀ p, p ≠ "confirmPassword" → fieldError
      (if d.password = d.confirmPassword then [] else [(⟨"confirmPassword", "密碼不相符"⟩ : Issue)])
      p = none := by
    intro p hp; split <;> simp [fieldError, Ne.symm hp]
  simp (disch := decide) only [registerSchema, List.append_assoc, fieldError_stringIssues_self,
    fieldError_stringIssues_of_ne, hrefine, Option.or_none, firstFailure_confirmPassword,
    true_and]
  by_cases hc : d.confirmPassword = ""
  · simp [hc]
  · simp only [hc, if_false, Option.none_or]
    split <;> rfl

/-- Every account the register form submits passes the sign-in form's checks. -/
theorem registered_account_signs_in {isEmail : String → Bool} {d : RegisterFormData}
    {cr : RegisterCredentials} (h : RegisterForm.onSubmit isEmail d = some cr) :
    LoginForm.onSubmit isEmail ⟨cr.email, cr.password⟩ = some ⟨cr.email, cr.password⟩ := by
  by_cases hnil : registerSchema isEmail d = []
  · simp only [RegisterForm.onSubmit, handleSubmit, hnil, if_true, Option.map_some',
      Option.some.injEq] at h
    subst h
    simp only [registerSchema, List.append_eq_nil, emailIssues_eq_nil_iff,
      passwordIssues_eq_nil_iff] at hnil
    obtain ⟨⟨⟨⟨⟨he, hv⟩, -⟩, ⟨h12, -⟩, -⟩, -⟩, -⟩ := hnil
    have hp : d.password ≠ "" := one_le_jsLength_iff.mp (by omega)
    simp [LoginForm.onSubmit, handleSubmit, loginSchema, emailIssues_eq_nil_iff,
      loginPasswordIssues_eq_nil_iff, he, hv, hp]
  · simp [RegisterForm.onSubmit, handleSubmit, hnil] at h

/-- An account whose password has a `/` beside its symbol, signing in. -/
theorem slashPassword_signs_in :
    RegisterForm.onSubmit (fun s => s.data.contains '@')
        ⟨"u2@example.com", "user_2", "Secret/Pass1#", "Secret/Pass1#"⟩ =
      some ⟨"u2@example.com", "user_2", "Secret/Pass1#"⟩ ∧
    LoginForm.onSubmit (fun s => s.data.contains '@') ⟨"u2@example.com", "Secret/Pass1#"⟩ =
      some ⟨"u2@example.com", "Secret/Pass1#"⟩ :=
  ⟨by decide, @registered_account_signs_in (fun s => s.data.contains '@')
    ⟨"u2@example.com", "user_2", "Secret/Pass1#", "Secret/Pass1#"⟩
    ⟨"u2@example.com", "user_2", "Secret/Pass1#"⟩ (by decide)⟩

end ChatClient
