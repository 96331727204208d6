/-
  The check of a site: all findings, in a fixed order.  A site is valid if
  there are none; the later stages only promise good results for valid sites.
-/
import NetworkSite.Check.Addresses
import NetworkSite.Check.Policy
import NetworkSite.Check.Switches

namespace NetworkSite.Site

open Finding

/-- The domain of the site is well formed. -/
def ownFindings (s : Site) : List Finding :=
  require (Text.isDomain s.domain) (.invalidField .site "domain" s!"'{s.domain}' is not a valid domain")

/-- Everything that is wrong with a site. -/
def findings (s : Site) : List Finding :=
  s.ownFindings ++ s.switchFindings ++ s.subnetFindings ++ s.hostFindings ++ s.hostingFindings ++
    s.interfaceFindings ++ s.addressFindings ++ s.policyFindings

end NetworkSite.Site
