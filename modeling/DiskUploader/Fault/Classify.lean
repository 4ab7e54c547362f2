import DiskUploader.Fault.Cause
import DiskUploader.Text.Basic

/-!
# Classifying a cause chain

A chain is given a code by three checks, in order. An HTTP failure carrying status 401 or 403
means access was denied, and 404 that something was not found. Otherwise the texts of the
whole chain, joined by line breaks and lower-cased, are matched against an ordered list of
rules, and the first rule with a matching pattern wins. Otherwise an HTTP timeout gives
`timeout` and a failed HTTP connection gives `connection`. Only the nearest HTTP failure of the
chain is looked at.
-/

namespace DiskUploader

structure Rule where
  patterns : List String
  code : Code

def messageRules : List Rule :=
  [⟨["access_denied", "access denied", "unauthorized", "authentication failed", "invalid_grant",
      "401"], .accessDenied⟩,
    ⟨["non-array sso response"], .notAnEngine⟩,
    ⟨["http response to https client"], .notAnEngine⟩,
    ⟨["tls", "x509", "certificate"], .tlsError⟩,
    ⟨["not found", "404"], .notFound⟩]

def statusRule : Nat → Option Code
  | 401 | 403 => some .accessDenied
  | 404 => some .notFound
  | _ => none

def chainText (chain : List Layer) : List Char :=
  Text.fold ("\n".intercalate (chain.map Layer.message))

def messageCode (chain : List Layer) : Option Code :=
  let text := chainText chain
  (messageRules.find? fun r => r.patterns.any (Text.mentions text)).map Rule.code

def classify (chain : List Layer) : Option Code :=
  let http := firstHttp chain
  match http.bind (fun h => h.1.bind statusRule) with
  | some c => some c
  | none =>
    match messageCode chain with
    | some c => some c
    | none =>
      match http with
      | some (_, true, _) => some .timeout
      | some (_, false, true) => some .connection
      | _ => none

theorem classify_of_status {s : Nat} {t c : Bool} {m : String} {rest : List Layer}
    {code : Code} (h : statusRule s = some code) :
    classify (.foreign (.http (some s) t c) m :: rest) = some code := by
  simp [classify, firstHttp, Layer.http?, h]

end DiskUploader
