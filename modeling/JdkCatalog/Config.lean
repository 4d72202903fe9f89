import JdkCatalog.Platform

/-!
# Configurations

Which feed is read, and for what.
-/

namespace JdkCatalog

/-- A configuration. -/
structure Config where
  /-- The address of the feed. -/
  feedUrl : String
  /-- The build that filters are about. -/
  build : BuildNumber
  /-- The operating system. -/
  os : Os
  /-- The architecture. -/
  arch : Arch

namespace Config

/-- The address of the feed unless another one is given. -/
def standardFeedUrl : String :=
  "https://download.jetbrains.com/jdk/feed/v1/jdks.json.xz"

/-- What the feed is read for. -/
def context (config : Config) : Context :=
  ⟨config.build, config.os, config.arch⟩

end Config

end JdkCatalog
