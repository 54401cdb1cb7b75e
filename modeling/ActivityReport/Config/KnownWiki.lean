/-!
# Known wikis

What the configuration says about one wiki.
-/

namespace ActivityReport

/-- One entry of the list of known wikis. -/
structure KnownWiki where
  id : String
  domain : String
  replicaDatabaseName : String
  languageCode : String
  timeZone : String
  /-- Names of bot accounts that do not carry the bot group. -/
  flaglessBots : List String
  hasServiceAwards : Bool
  serviceAwardPageName : Option String
  deriving DecidableEq, Repr

end ActivityReport
