import SoapStubs.Text.Blank

/-!
# Where a service is deployed

* `Deployment` is the default location of the endpoints, `Deployment.url` the address of a service
  there;
* `normalContext` brings a context path into normal form: without slashes in front, and with
  exactly one behind it unless it is empty.
-/

namespace SoapStubs

/-- The normal form of a context path. -/
def normalContext (context : String) : String :=
  let inner := Text.stripChar '/' (Text.strip context)
  if inner = "" then "" else inner ++ "/"

/-- The default location of the endpoints. -/
structure Deployment where
  protocol : String := "http"
  host : String := "localhost"
  /-- The context path in normal form. -/
  context : String := ""
  deriving DecidableEq, Repr, Inhabited

/-- The address of a service. -/
def Deployment.url (d : Deployment) (service : String) : String :=
  d.protocol ++ "://" ++ d.host ++ "/" ++ d.context ++ "soap/" ++ service

end SoapStubs
