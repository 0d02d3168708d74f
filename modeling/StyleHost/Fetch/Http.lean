import StyleHost.Error
import StyleHost.Url.Parser

/-!
# Requests over HTTP

Which references are sent to a server: URLs under `http` and `https`.

* `Http.target` : the URL that a reference is sent to, or why none is.
-/

namespace StyleHost

namespace Http

/-- The name of the fetcher that sends requests. -/
def fetcherName : String := "HttpFetcher"

/-- The schemes under which requests are sent. -/
def schemes : List String := ["http", "https"]

/-- The URL that a reference is sent to. -/
def target (uri : String) : Except FetchError Url :=
  match Url.parse uri with
  | .error cause => .error (.invalidUri (uri ++ ": " ++ cause.message))
  | .ok url =>
    if schemes.contains url.scheme then .ok url
    else .error (.invalidUri (uri ++ ": unsupported scheme '" ++ url.scheme ++ "'"))

end Http

end StyleHost
