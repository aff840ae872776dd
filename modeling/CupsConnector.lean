import CupsConnector.Lib.Printer
import CupsConnector.Lib.DiffPrinter
import CupsConnector.Lib.DiffPrinters
import CupsConnector.Lib.DiffPrintersSpec
import CupsConnector.Lib.Rounds
import CupsConnector.Lib.Hostname
import CupsConnector.Cups.PPDCacheEntry
import CupsConnector.Cups.PPDCache
import CupsConnector.Cups.PPDCacheConcurrent
import CupsConnector.Cups.PPDCacheOwnership
import CupsConnector.Util.Prompt
import CupsConnector.Util.OAuth
import CupsConnector.Util.InitConfig
