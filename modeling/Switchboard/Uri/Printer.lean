import Switchboard.Uri.Basic

set_option autoImplicit false

/-!
# The text of a URI

The scheme with its colon comes first.  A URI with a body has the body next; any other has its
authority (two slashes, the user with an at sign, the host) and its path.  The slashes are written
when there is a host or a user, and also in front of a path behind a scheme; a path that does not
start with a slash gets one behind a host.  The query and the fragment follow, each behind its own
mark, and only if they are there.
-/

namespace Switchboard.Uri

/-- The scheme and its colon. -/
def printScheme (u : Uri) : Text := if u.scheme = [] then [] else u.scheme ++ [':']

/-- The slashes, the user and the host. -/
def printAuthority (u : Uri) : Text :=
  if u.scheme = [] ∧ u.host = [] ∧ u.user = none then []
  else
    (if u.host = [] ∧ u.path = [] ∧ u.user = none then [] else ['/', '/'])
      ++ (match u.user with
        | some user => user ++ ['@']
        | none => [])
      ++ u.host

/-- The path, with the slash that parts it from the host. -/
def printPath (u : Uri) : Text :=
  (if u.path ≠ [] ∧ u.path.head? ≠ some '/' ∧ u.host ≠ [] then ['/'] else []) ++ u.path

/-- The query behind its question mark. -/
def printQuery (u : Uri) : Text :=
  if u.forceQuery ∨ u.query ≠ [] then '?' :: u.query else []

/-- The fragment behind its number sign. -/
def printFragment (u : Uri) : Text := if u.fragment = [] then [] else '#' :: u.fragment

/-- The text of a URI. -/
def print (u : Uri) : Text :=
  u.printScheme
    ++ (if u.body = [] then u.printAuthority ++ u.printPath else u.body)
    ++ u.printQuery ++ u.printFragment

end Switchboard.Uri
