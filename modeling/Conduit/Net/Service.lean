import Conduit.Text.Digits
set_option autoImplicit false

namespace Conduit.Net

def wellKnownServices : List (String × UInt16) :=
  [ ("ftp", 21), ("ssh", 22), ("telnet", 23), ("smtp", 25), ("domain", 53), ("http", 80),
    ("https", 443) ]

def servicePort? (service : String) : Option UInt16 :=
  match Text.unsigned? 65536 service with
  | some port => some (UInt16.ofNat port)
  | none => wellKnownServices.lookup service.toLower

end Conduit.Net
