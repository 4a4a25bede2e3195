import ChatClient.Types

/-
  The forms' validation (`schemas/index.ts`): `loginSchema` and `registerSchema`, as
  `zodResolver` runs them on `LoginForm`'s and `RegisterForm`'s values.

  A zod string schema runs every check of its chain and reports an issue for each one that
  fails, in the chain's order; an object parses its fields in the order of its shape. The
  `refine` of `registerSchema` runs after the fields, also when they reported issues: every
  value of a form is a string, and a failed check of a string does not abort the parse.
  `zodResolver` keeps the first issue of each path, and the form shows its message under the
  field; with no issue at all, `handleSubmit` calls `onSubmit` with the values.

  `.email()` tests zod's own pattern, which is not in the sources: it is the parameter
  `isEmail`. `.min` and `.max` compare `length`, in UTF-16 code units (`jsLength`). A
  `.regex` is the predicate it decides on the string's code points; every class here is
  ASCII, and a code unit is in an ASCII class exactly when it is the code point itself, so
  this is the test on code units.
-/

namespace ChatClient

/-- An issue of a parse: the path zod reports (the field's name) and the message. -/
structure Issue where
  path : String
  message : String
  deriving DecidableEq, Repr

/-- A check of a zod string chain. -/
inductive StringCheck
  /-- `.min(value, message)` -/
  | min (value : Nat) (message : String)
  /-- `.max(value, message)` -/
  | max (value : Nat) (message : String)
  /-- `.regex(pattern, message)`, by the predicate `pattern.test` decides. -/
  | regex (test : List Char → Bool) (message : String)
  /-- `.email(message)` -/
  | email (message : String)

namespace StringCheck

def message : StringCheck → String
  | min _ m | max _ m | regex _ m | email m => m

/-- Whether `s` passes the check: zod reports `too_small` when `s.length < value`, and
    `too_big` when `s.length > value`. -/
def ok (isEmail : String → Bool) (s : String) : StringCheck → Bool
  | min value _ => decide (value ≤ jsLength s)
  | max value _ => decide (jsLength s ≤ value)
  | regex test _ => test s.data
  | email _ => isEmail s

end StringCheck

/-- The issues of the string field `path`: one per failed check, in the chain's order. -/
def stringIssues (isEmail : String → Bool) (path : String) (checks : List StringCheck)
    (s : String) : List Issue :=
  (checks.filter fun k => !k.ok isEmail s).map fun k => ⟨path, k.message⟩

/-! ## The patterns -/

/-- A code point of `[a-zA-Z0-9_-]`. -/
def isUsernameChar (c : Char) : Bool := c.isAlphanum || c = '_' || c = '-'

/-- `/^[a-zA-Z0-9_-]+$/`. Without the `m` flag, `$` matches only at the end. -/
def usernamePattern (cs : List Char) : Bool := !cs.isEmpty && cs.all isUsernameChar

/-- The class of the password's last pattern, in its order: `!@#$%^&*(),.?":{}|<>_-+=[]\;`,
    then the apostrophe, the backtick and `~`. -/
def specialChars : List Char := "!@#$%^&*(),.?\":\x7b\x7d|<>_-+=[]\\;\x27\x60~".data

/-! ## The schemas -/

def emailChecks : List StringCheck :=
  [.min 1 "請輸入電子郵件", .email "請輸入有效的電子郵件"]

/-- `loginSchema`'s password. -/
def loginPasswordChecks : List StringCheck := [.min 1 "請輸入密碼"]

def usernameChecks : List StringCheck :=
  [.min 3 "使用者名稱至少 3 個字元", .max 50 "使用者名稱最多 50 個字元",
    .regex usernamePattern "使用者名稱只能包含字母、數字、底線和連字號"]

/-- `registerSchema`'s password: `/[a-z]/`, `/[A-Z]/` and `/\d/` find one code point of
    their class anywhere. -/
def passwordChecks : List StringCheck :=
  [.min 12 "密碼至少 12 個字元", .max 128 "密碼最多 128 個字元",
    .regex (·.any Char.isLower) "密碼必須包含至少一個小寫字母",
    .regex (·.any Char.isUpper) "密碼必須包含至少一個大寫字母",
    .regex (·.any Char.isDigit) "密碼必須包含至少一個數字",
    .regex (·.any specialChars.contains) "密碼必須包含至少一個特殊字元"]

def confirmPasswordChecks : List StringCheck := [.min 1 "請確認密碼"]

structure LoginFormData where
  email : String
  password : String
  deriving DecidableEq, Repr

structure RegisterFormData where
  email : String
  username : String
  password : String
  confirmPassword : String
  deriving DecidableEq, Repr

/-- The issues `loginSchema` reports on the form's values. -/
def loginSchema (isEmail : String → Bool) (d : LoginFormData) : List Issue :=
  stringIssues isEmail "email" emailChecks d.email ++
    stringIssues isEmail "password" loginPasswordChecks d.password

/-- The issues `registerSchema` reports: the fields', then the refinement's, on the path
    `["confirmPassword"]`. -/
def registerSchema (isEmail : String → Bool) (d : RegisterFormData) : List Issue :=
  stringIssues isEmail "email" emailChecks d.email ++
    stringIssues isEmail "username" usernameChecks d.username ++
    stringIssues isEmail "password" passwordChecks d.password ++
    stringIssues isEmail "confirmPassword" confirmPasswordChecks d.confirmPassword ++
    if d.password = d.confirmPassword then [] else [⟨"confirmPassword", "密碼不相符"⟩]

/-! ## The forms -/

/-- `errors[path]?.message` after `zodResolver`: the first issue of the path. -/
def fieldError (issues : List Issue) (path : String) : Option String :=
  (issues.find? fun i => i.path = path).map Issue.message

/-- `handleSubmit(onSubmit)`: `onSubmit` gets the values only when no issue was reported. -/
def handleSubmit {α : Type} (issues : List Issue) (values : α) : Option α :=
  if issues = [] then some values else none

structure LoginCredentials where
  email : String
  password : String
  deriving DecidableEq, Repr

structure RegisterCredentials where
  email : String
  username : String
  password : String
  deriving DecidableEq, Repr

/-- `LoginForm`'s submit: `login.mutate(data)`, with the credentials it sends. -/
def LoginForm.onSubmit (isEmail : String → Bool) (d : LoginFormData) : Option LoginCredentials :=
  (handleSubmit (loginSchema isEmail d) d).map fun d => ⟨d.email, d.password⟩

/-- `RegisterForm`'s submit: `registerMutation.mutate({ email, username, password })`. -/
def RegisterForm.onSubmit (isEmail : String → Bool) (d : RegisterFormData) :
    Option RegisterCredentials :=
  (handleSubmit (registerSchema isEmail d) d).map fun d => ⟨d.email, d.username, d.password⟩

end ChatClient
