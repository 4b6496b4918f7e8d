import LedgerWallet.Url.Escape

/-! Addresses of places that a program can call. -/
namespace LedgerWallet

/-- A name and a password, both with their escapes. -/
structure Url.Credentials where
  name : List Char
  password : List Char
deriving DecidableEq

structure Url.Authority where
  credentials : Url.Credentials
  host : List Char
  port : Option Nat
deriving DecidableEq

structure Url where
  scheme : List Char
  authority : Option Url.Authority
  path : List Char
  query : Option (List Char)
  fragment : Option (List Char)
deriving DecidableEq

namespace Url

def Credentials.empty : Credentials := ⟨[], []⟩

def Credentials.chars (c : Credentials) : List Char :=
  let password := if c.password.isEmpty then [] else ':' :: c.password
  let text := c.name ++ password
  if text.isEmpty then [] else text ++ ['@']

def Authority.chars (authority : Authority) : List Char :=
  let port := match authority.port with
    | some port => ':' :: Nat.toDigits 10 port
    | none => []
  authority.credentials.chars ++ authority.host ++ port

/-- Credentials can be sent as text of their own if their escapes stand for text. -/
def Credentials.areText (c : Credentials) : Bool :=
  match unescaped? c.name with
  | some name => !name.isEmpty || (!c.password.isEmpty && (unescaped? c.password).isSome)
  | none => false

/-- The address that is called. Credentials that are sent on their own are no part of it. -/
def called (url : Url) : Url :=
  { url with authority := url.authority.map fun authority =>
      if authority.credentials.areText then { authority with credentials := .empty }
      else authority }

def chars (url : Url) : List Char :=
  let part (mark : Char) (text : Option (List Char)) : List Char :=
    match text with
    | some text => mark :: text
    | none => []
  let place := match url.authority with
    | some authority => '/' :: '/' :: authority.chars
    | none => if ['/', '/'].isPrefixOf url.path then ['/', '.'] else []
  url.scheme ++ ':' :: (place ++ url.path ++ part '?' url.query ++ part '#' url.fragment)

def text (url : Url) : String := String.ofList url.chars

end Url

end LedgerWallet
