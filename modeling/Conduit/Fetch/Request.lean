set_option autoImplicit false

namespace Conduit.Fetch

def lineEnd : String := "\r\n"

def requestLines (host path : String) : List String :=
  ["GET " ++ path ++ " HTTP/1.1", "Host: " ++ host, "Connection: close", ""]

def requestText (host path : String) : String :=
  String.join ((requestLines host path).map (· ++ lineEnd))

end Conduit.Fetch
