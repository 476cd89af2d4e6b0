import RunWatch.Http.Url

/-!
# Credentials in an address

User and password in front of a host do not go out in the address: they are taken out of it and presented in
the header.  Credentials that are no text stay where they are.
-/

namespace RunWatch.Http

/-! ## Base 64 -/

/-- The sign for six bits. -/
def base64Digit (n : Nat) : Char :=
  if n < 26 then Char.ofNat ('A'.toNat + n)
  else if n < 52 then Char.ofNat ('a'.toNat + (n - 26))
  else if n < 62 then Char.ofNat ('0'.toNat + (n - 52))
  else if n = 62 then '+' else '/'

/-- Bytes in signs for six bits each, three bytes in four signs and filled up at the end. -/
def base64 : List UInt8 → List Char
  | [] => []
  | [a] => [base64Digit (a.toNat / 4), base64Digit (a.toNat % 4 * 16), '=', '=']
  | [a, b] =>
    [base64Digit (a.toNat / 4), base64Digit (a.toNat % 4 * 16 + b.toNat / 16),
      base64Digit (b.toNat % 16 * 4), '=']
  | a :: b :: c :: rest =>
    [base64Digit (a.toNat / 4), base64Digit (a.toNat % 4 * 16 + b.toNat / 16),
      base64Digit (b.toNat % 16 * 4 + c.toNat / 64), base64Digit (c.toNat % 64)] ++ base64 rest

/-! ## Taking credentials out -/

/-- A user and perhaps a password. -/
structure Credentials where
  user : List Char
  password : Option (List Char)

/-- Credentials as they are presented in the header. -/
def Credentials.presented (c : Credentials) : String :=
  "Basic " ++ String.ofList
    (base64 (String.ofList (c.user ++ ':' :: c.password.getD [])).toUTF8.toList)

/-- The address without its credentials and these, if it has any that are text. -/
def Url.withoutCredentials (u : Url) : Url × Option Credentials :=
  match percentDecode? u.user.toList with
  | none => (u, none)
  | some user =>
    let password := u.password.bind fun p => percentDecode? p.toList
    if user.isEmpty && password.isNone then (u, none)
    else ({ u with user := "", password := none }, some ⟨user, password⟩)

end RunWatch.Http
