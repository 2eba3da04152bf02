import SchemaSieve.Files.Folder
import SchemaSieve.Main
import SchemaSieve.Proofs.AdoptedRules
import SchemaSieve.Proofs.Canonical
import SchemaSieve.Proofs.Coverage
import SchemaSieve.Proofs.Covering
import SchemaSieve.Proofs.Describing
import SchemaSieve.Proofs.Erasure
import SchemaSieve.Proofs.Flaws
import SchemaSieve.Proofs.Gathering
import SchemaSieve.Proofs.Isolation
import SchemaSieve.Proofs.Joining
import SchemaSieve.Proofs.Listings
import SchemaSieve.Proofs.Literals
import SchemaSieve.Proofs.Namespaces
import SchemaSieve.Proofs.Removal
import SchemaSieve.Proofs.Rereading
import SchemaSieve.Proofs.Rounds
import SchemaSieve.Proofs.Tightening
import SchemaSieve.Proofs.Unions
import SchemaSieve.Proofs.WholeNames
