import DocMarkers.Config.Settings
import DocMarkers.Evaluation
import DocMarkers.Tree.Read

/-! # Looking up links

A link to a file is looked up in the file system, and one to the network by a request, unless the
network is left alone. Other links are not checked.
-/

namespace DocMarkers

/-- Answers for addresses on the network. -/
abbrev Fetch := String → Outcome

namespace Probe

/-- Looks up links in a tree and, if `fetch?` is given, on the network. -/
def live (tree : Tree) (fetch? : Option Fetch) : Probe
  | .file path =>
    if tree.isPresent path then .passed else .failed (path.text ++ " does not exist")
  | .remote uri =>
    match fetch? with
    | some fetch => fetch uri
    | none => .indeterminate "offline"
  | .fragment link => .indeterminate ("in-page link '" ++ link ++ "' is not checked")
  | .unsupported uri => .indeterminate ("unsupported scheme in '" ++ uri ++ "'")

end Probe

namespace ProbeSettings

/-- Whether a character may stand in a field of a request: no control character but the tab. -/
def isHeaderChar (c : Char) : Bool :=
  (c.toNat ≥ 0x20 && c.toNat != 0x7F) || c == '\t'

/-- Whether requests can be made, if any have to be. -/
def isUsable (settings : ProbeSettings) : Bool :=
  settings.offline || settings.userAgent.toList.all isHeaderChar

/-- The probe of the settings. -/
def probe (settings : ProbeSettings) (tree : Tree) (fetch : Fetch) : Probe :=
  .live tree (if settings.offline then none else some fetch)

end ProbeSettings

end DocMarkers
